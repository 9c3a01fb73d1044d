import ProcessMigration.Proofs.DateOrder
import ProcessMigration.Proofs.LifeCycle

/-!
# Listings of rows

A listing of rows is sorted by start date and id. Ids are distinct, so the order is strict, and to
take rows out of a listing is to list the other rows.

* `Row.sorted_filter`: the listing of some rows is the listing of all without the others;
* `Row.sorted_ascending`: a listing is in strict order;
* `Row.cursor_lt`: in that order the records that are read from the rows follow each other;
* `Store.skipped_run`: the answer to a request for skipped records; `Store.skipped_rows`: they are
  read from different rows.
-/

namespace ProcessMigration

/-! ## The order of rows -/

namespace Row

theorem dateLt_irrefl (a : Option String) : dateLt a a = false := by
  cases a with
  | none => rfl
  | some s => simp [dateLt]

theorem dateLt_trans {a b c : Option String} (hab : dateLt a b = true) (hbc : dateLt b c = true) :
    dateLt a c = true := by
  cases a <;> cases b <;> cases c <;> simp only [dateLt, decide_eq_true_eq, Bool.false_eq_true] at *
  exact String.lt_trans hab hbc

theorem dateLt_connex (a b : Option String) : dateLt a b = true ∨ a = b ∨ dateLt b a = true := by
  cases a with
  | none => cases b <;> simp [dateLt]
  | some s =>
    cases b with
    | none => simp [dateLt]
    | some t =>
      simp only [dateLt, decide_eq_true_eq, Option.some.injEq]
      by_cases hst : s < t
      · exact .inl hst
      · by_cases hts : t < s
        · exact .inr (.inr hts)
        · exact .inr (.inl (String.le_antisymm (String.not_lt.1 hts) (String.not_lt.1 hst)))

instance : Std.Irrefl fun a b => dateLt a b = true :=
  ⟨fun a => by simp [dateLt_irrefl]⟩

instance : IsTrans (Option String) fun a b => dateLt a b = true :=
  ⟨fun _ _ _ => dateLt_trans⟩

instance : Std.Trichotomous fun a b => dateLt a b = true :=
  Std.trichotomous_of_rel_or_eq_or_rel_swap fun {a b} => dateLt_connex a b

theorem lt_iff {a b : Row} :
    a.lt b = true ↔ dateLt a.startDate b.startDate = true ∨
      (a.startDate = b.startDate ∧ a.legacyId < b.legacyId) := by
  simp [lt]

/-- Rows are in the order of their dates and, at the same date, of their ids. -/
theorem lt_iff_lex {a b : Row} : a.lt b = true ↔
    Prod.Lex (fun s t => dateLt s t = true) (· < ·) (a.startDate, a.legacyId)
      (b.startDate, b.legacyId) := by
  rw [lt_iff, Prod.lex_iff]

theorem lt_irrefl (a : Row) : ¬a.lt a = true := by
  rw [lt_iff_lex]
  exact Std.Irrefl.irrefl _

theorem lt_trans {a b c : Row} (hab : a.lt b = true) (hbc : b.lt c = true) : a.lt c = true := by
  rw [lt_iff_lex] at *
  exact Prod.Lex.trans hab hbc

/-- Rows that are not in order either way have the same id. -/
theorem lt_connex (a b : Row) :
    a.lt b = true ∨ (a.startDate = b.startDate ∧ a.legacyId = b.legacyId) ∨ b.lt a = true := by
  rw [lt_iff_lex, lt_iff_lex]
  exact Std.Trichotomous.rel_or_eq_or_rel_swap.imp_right (Or.imp_left Prod.mk.inj)

theorem not_lt_trans (a b c : Row) (hab : (!b.lt a) = true) (hbc : (!c.lt b) = true) :
    (!c.lt a) = true := by
  rw [Bool.not_eq_true'] at *
  rw [Bool.eq_false_iff] at *
  intro hca
  rcases lt_connex a b with hlt | ⟨hdate, hid⟩ | hgt
  · exact hbc (lt_trans hca hlt)
  · apply hbc
    rw [lt_iff] at hca ⊢
    rw [← hdate, ← hid]
    exact hca
  · exact hab hgt

theorem not_lt_total (a b : Row) : (!b.lt a || !a.lt b) = true := by
  cases hba : b.lt a with
  | false => rfl
  | true =>
    cases hab : a.lt b with
    | false => rfl
    | true => exact absurd (lt_trans hab hba) (lt_irrefl a)

/-! ## Listings -/

theorem sorted_perm (rows : List Row) : (sorted rows).Perm rows := List.mergeSort_perm _ _

theorem mem_sorted {rows : List Row} {r : Row} : r ∈ sorted rows ↔ r ∈ rows :=
  (sorted_perm rows).mem_iff

theorem sorted_pairwise (rows : List Row) : (sorted rows).Pairwise fun a b => (!b.lt a) = true :=
  List.pairwise_mergeSort not_lt_trans not_lt_total rows

/-- With distinct ids there is one way to list rows in order. -/
theorem eq_sorted {rows listing : List Row} (hids : (rows.map (·.legacyId)).Nodup)
    (hperm : listing.Perm rows) (horder : listing.Pairwise fun a b => (!b.lt a) = true) :
    listing = sorted rows := by
  refine List.Perm.eq_of_pairwise ?_ horder (sorted_pairwise rows)
    (hperm.trans (sorted_perm rows).symm)
  intro a b ha hb hab hba
  have hsame : a.legacyId = b.legacyId := by
    rcases lt_connex a b with hlt | ⟨_, hid⟩ | hgt
    · rw [hlt] at hba
      cases hba
    · exact hid
    · rw [hgt] at hab
      cases hab
  exact List.inj_on_of_nodup_map hids (hperm.mem_iff.1 ha) (mem_sorted.1 hb) hsame

/-- To take rows out of a listing is to list the other rows. -/
theorem sorted_filter {rows : List Row} (hids : (rows.map (·.legacyId)).Nodup) (p : Row → Bool) :
    (sorted rows).filter p = sorted (rows.filter p) := by
  refine eq_sorted ?_ ((sorted_perm rows).filter p) ((sorted_pairwise rows).filter p)
  exact hids.sublist (List.filter_sublist.map _)

theorem sorted_ascending {rows : List Row} (hids : (rows.map (·.legacyId)).Nodup) :
    (sorted rows).Pairwise fun a b => a.lt b = true := by
  have hsorted : ((sorted rows).map (·.legacyId)).Nodup :=
    ((sorted_perm rows).map (·.legacyId)).nodup_iff.2 hids
  have hdistinct : (sorted rows).Pairwise fun a b => a.legacyId ≠ b.legacyId :=
    List.pairwise_map.1 hsorted
  refine (hdistinct.and (sorted_pairwise rows)).imp ?_
  rintro a b ⟨hne, hle⟩
  rcases lt_connex a b with hlt | ⟨_, hid⟩ | hgt
  · exact hlt
  · exact absurd hid hne
  · rw [hgt] at hle
    cases hle

/-! ## Rows as records -/

/-- A row that a record was written in, with a start date that sorts as a text. -/
def IsDated (r : Row) : Prop :=
  ∃ record : MappingRecord, r = .ofRecord record ∧ Instant.Dated record.startDate

/-- A dated row that is flipped is dated. -/
theorem IsDated.flipped {r : Row} (h : r.IsDated) (key : Int) : (Store.flipped key r).IsDated := by
  obtain ⟨record, rfl, hdated⟩ := h
  exact ⟨{ record with targetKey := some key, skipReason := none }, rfl, hdated⟩

/-- Of a record that was written all but the start date is read back in any case. -/
theorem read_ofRecord_eq (record : MappingRecord) :
    Store.read (.ofRecord record) =
      match readDate (record.startDate.map Instant.microText) with
      | .ok date => .ok { record with startDate := date }
      | .error e => .error (.database (.unreadable 3 e)) := by
  obtain ⟨legacyId, entityType, targetKey, startDate, skipReason⟩ := record
  cases entityType
  unfold Store.read Row.record ofRecord
  rcases readDate (startDate.map Instant.microText) with e | date
  · rfl
  · rfl

/-- A record that was written with such a start date is read back, the date cut to microseconds. -/
theorem read_ofRecord {record : MappingRecord} (h : Instant.Dated record.startDate) :
    Store.read (.ofRecord record) =
      .ok { record with startDate := record.startDate.map Instant.cut } := by
  rw [read_ofRecord_eq, readDate_microText h]

/-- A dated row is read as the record in it, with the start date cut to microseconds. -/
theorem IsDated.read {r : Row} (h : r.IsDated) :
    ∃ record, r = .ofRecord record ∧ Instant.Dated record.startDate ∧
      Store.read r = .ok { record with startDate := record.startDate.map Instant.cut } := by
  obtain ⟨record, rfl, hdated⟩ := h
  exact ⟨record, rfl, hdated, read_ofRecord hdated⟩

/-- There is one entity type only. -/
theorem isOf_ofRecord (record : MappingRecord) : (ofRecord record).isOf .processInstance = true := by
  cases hentity : record.entityType
  simp [Row.isOf, ofRecord, hentity]

theorem IsDated.isOf {r : Row} (h : r.IsDated) : r.isOf .processInstance = true := by
  obtain ⟨record, rfl, _⟩ := h
  exact isOf_ofRecord record

end Row

/-- The place of a record in the order of start dates and ids. -/
def MappingRecord.cursor (r : MappingRecord) : Cursor := ⟨r.startDate, r.legacyId⟩

namespace Row

theorem legacyId_of_read {r : Row} {record : MappingRecord} (h : Store.read r = .ok record) :
    record.legacyId = r.legacyId := by
  unfold Store.read Row.record at h
  split at h
  · cases h
  · split at h
    · cases h
    · cases h
      rfl

/-- The order of the listing is the order of start dates and ids. -/
theorem cursor_lt {a b : Row} (ha : a.IsDated) (hb : b.IsDated) {ra rb : MappingRecord}
    (hra : Store.read a = .ok ra) (hrb : Store.read b = .ok rb) (h : a.lt b = true) :
    ra.cursor.lt rb.cursor = true := by
  obtain ⟨recorda, rfl, hdateda, hreada⟩ := ha.read
  obtain ⟨recordb, rfl, hdatedb, hreadb⟩ := hb.read
  cases hreada.symm.trans hra
  cases hreadb.symm.trans hrb
  rw [Cursor.lt_iff]
  rcases lt_iff.1 h with hdate | ⟨hdate, hid⟩
  · exact .inl (before_of_dateLt hdateda hdatedb hdate)
  · exact .inr ⟨Instant.cut_eq_of_microText_eq hdateda hdatedb hdate, hid⟩

end Row

/-! ## Pages -/

namespace Store

/-- Rows are read as these records. -/
abbrev ReadAs : List Row → List MappingRecord → Prop :=
  List.Forall₂ fun r record => read r = .ok record

/-- Where there is room for a row, no records are read only if there are no rows. -/
theorem ReadAs.eq_nil_of_take {rows : List Row} {n : Nat} (hn : 1 ≤ n)
    (h : ReadAs (rows.take n) []) : rows = [] := by
  rcases List.take_eq_nil_iff.1 (List.forall₂_nil_right_iff.1 h) with hzero | hnil
  · omega
  · exact hnil

theorem readAs_iff {rows : List Row} {records : List MappingRecord} :
    rows.mapM read = .ok records ↔ ReadAs rows records := by
  unfold ReadAs
  induction rows generalizing records with
  | nil =>
    rw [List.mapM_nil, List.forall₂_nil_left_iff]
    exact ⟨fun h => (Except.ok.inj h).symm, fun h => h ▸ rfl⟩
  | cons r rest ih =>
    rw [List.mapM_cons, List.forall₂_cons_left_iff]
    cases hr : read r with
    | error e =>
      constructor
      · intro h
        cases h
      · rintro ⟨record, _, h, _⟩
        cases h
    | ok record =>
      cases hrest : rest.mapM read with
      | error e =>
        constructor
        · intro h
          cases h
        · rintro ⟨_, records', _, h, _⟩
          rw [ih.2 h] at hrest
          cases hrest
      | ok records' =>
        constructor
        · intro h
          cases h
          exact ⟨record, records', rfl, ih.1 hrest, rfl⟩
        · rintro ⟨_, records'', h, hrecords, rfl⟩
          cases h
          rw [ih.2 hrecords] at hrest
          cases hrest
          rfl

/-- Dated rows can be read. -/
theorem readAs_of_isDated {rows : List Row} (h : ∀ r ∈ rows, r.IsDated) :
    ∃ records, ReadAs rows records := by
  induction rows with
  | nil => exact ⟨[], .nil⟩
  | cons r rest ih =>
    obtain ⟨records, hrest⟩ := ih fun r' hr' => h r' (List.mem_cons_of_mem r hr')
    obtain ⟨_, _, _, hread⟩ := (h r List.mem_cons_self).read
    exact ⟨_, .cons hread hrest⟩

namespace ReadAs

variable {rows : List Row} {records : List MappingRecord}

theorem unique {records' : List MappingRecord} (h : ReadAs rows records)
    (h' : ReadAs rows records') : records = records' :=
  Except.ok.inj ((readAs_iff.2 h).symm.trans (readAs_iff.2 h'))

theorem ids (h : ReadAs rows records) : rows.map (·.legacyId) = records.map (·.legacyId) := by
  have hids : List.Forall₂ (fun r record => r.legacyId = record.legacyId) rows records :=
    h.imp fun r record hr => (Row.legacyId_of_read hr).symm
  have hmap := List.forall₂_map_left_iff.2 (List.forall₂_map_right_iff.2 hids)
  rw [List.forall₂_eq_eq_eq] at hmap
  exact hmap

theorem exists_row (h : ReadAs rows records) {record : MappingRecord} (hrecord : record ∈ records) :
    ∃ r ∈ rows, read r = .ok record := by
  obtain ⟨i, hi, rfl⟩ := List.mem_iff_getElem.1 hrecord
  have hlen := h.length_eq
  exact ⟨rows[i], List.getElem_mem _, h.get (hlen ▸ hi) hi⟩

/-- The records of dated rows in order follow each other. -/
theorem ascending (h : ReadAs rows records) (hdated : ∀ r ∈ rows, r.IsDated)
    (horder : rows.Pairwise fun a b => a.lt b = true) :
    records.Pairwise fun a b => a.cursor.lt b.cursor = true := by
  unfold ReadAs at h
  induction h with
  | nil => exact .nil
  | @cons r record rest records hr hrest ih =>
    rw [List.pairwise_cons] at horder
    refine .cons ?_ (ih (fun r' hr' => hdated r' (List.mem_cons_of_mem r hr')) horder.2)
    intro record' hrecord'
    obtain ⟨r', hr', hread'⟩ := exists_row hrest hrecord'
    exact Row.cursor_lt (hdated r List.mem_cons_self) (hdated r' (List.mem_cons_of_mem r hr'))
      hr hread' (horder.1 r' hr')

end ReadAs

theorem signed_of_lt {n : Nat} (h : n < 2 ^ 63) : signed n = n := by
  unfold signed
  rw [Int.bmod_def]
  omega

theorem signed_neg {n : Nat} (hle : 2 ^ 63 ≤ n) (hlt : n < 2 ^ 64) : signed n < 0 := by
  unfold signed
  rw [Int.bmod_def]
  omega

/-- With numbers that fit into signed ones a cut is a slice. -/
theorem cut_of_lt {α : Type} {offset limit : Nat} (hoffset : offset < 2 ^ 63)
    (hlimit : limit < 2 ^ 63) (xs : List α) : cut offset limit xs = (xs.drop offset).take limit := by
  unfold cut
  rw [signed_of_lt hoffset, signed_of_lt hlimit, Int.toNat_natCast, Int.toNat_natCast]
  exact if_neg (by omega)

/-- A limit beyond the signed numbers counts as none. -/
theorem cut_of_le {α : Type} {offset limit : Nat} (hoffset : offset < 2 ^ 63) (hle : 2 ^ 63 ≤ limit)
    (hlimit : limit < 2 ^ 64) (xs : List α) : cut offset limit xs = xs.drop offset := by
  unfold cut
  rw [signed_of_lt hoffset, Int.toNat_natCast]
  exact if_pos (signed_neg hle hlimit)

/-- A cut with a number of rows that fits into a signed one: so many are left out, and of the others
at least one is taken, if there is one. -/
theorem cut_eq {α : Type} {offset limit : Nat} (hoffset : offset < 2 ^ 63) (hpos : 1 ≤ limit)
    (hlimit : limit < 2 ^ 64) (xs : List α) :
    ∃ n, 1 ≤ n ∧ cut offset limit xs = (xs.drop offset).take n := by
  by_cases hsmall : limit < 2 ^ 63
  · exact ⟨limit, hpos, cut_of_lt hoffset hsmall xs⟩
  · refine ⟨xs.length + 1, by omega, ?_⟩
    rw [cut_of_le hoffset (by omega) hlimit, List.take_of_length_le]
    rw [List.length_drop]
    omega

theorem cut_sublist {α : Type} (offset limit : Nat) (xs : List α) :
    (cut offset limit xs).Sublist xs := by
  have hdrop : (xs.drop (signed offset).toNat).Sublist xs := List.drop_sublist _ _
  unfold cut
  dsimp only
  split
  · exact hdrop
  · exact (List.take_sublist _ _).trans hdrop

/-- The answer to a request for a page of records. -/
theorem page_run {t : StoreTables} {rows : List Row} {db : Database} (h : t.Holds rows db)
    (type : EntityType) (keep : Row → Bool) (offset limit : Nat) :
    (page t type keep offset limit).run db =
      ((cut offset limit (Row.sorted (rows.filter fun r => r.isOf type && keep r))).mapM read, db) := by
  unfold page
  rw [Action.run_bind, rows_run h]
  rfl

/-- The answer to a request for skipped records. -/
theorem skipped_run {t : StoreTables} {rows : List Row} {db : Database} (h : t.Holds rows db)
    (offset limit : Nat) :
    (skipped t .processInstance offset limit).run db =
      ((cut offset limit (Row.sorted (rows.filter fun r => r.isOf .processInstance && r.isSkipped))).mapM
        read, db) :=
  page_run h .processInstance Row.isSkipped offset limit

/-- The records of a page are of different skipped rows. -/
theorem skipped_rows {t : StoreTables} {rows : List Row} {db : Database} (h : t.Holds rows db)
    (hids : (rows.map (·.legacyId)).Nodup) {offset limit : Nat} {page : List MappingRecord}
    (hpage : ((skipped t .processInstance offset limit).run db).1 = .ok page) :
    (page.map (·.legacyId)).Nodup ∧
      ∀ record ∈ page, ∃ r ∈ rows, r.legacyId = record.legacyId ∧ r.isSkipped = true := by
  rw [skipped_run h] at hpage
  dsimp only at hpage
  have hread := readAs_iff.1 hpage
  have hsub := cut_sublist offset limit
    (Row.sorted (rows.filter fun r => r.isOf .processInstance && r.isSkipped))
  constructor
  · rw [← hread.ids]
    have hsorted : ((Row.sorted (rows.filter fun r =>
        r.isOf .processInstance && r.isSkipped)).map (·.legacyId)).Nodup := by
      refine ((Row.sorted_perm _).map (·.legacyId)).nodup_iff.2 ?_
      exact hids.sublist (List.filter_sublist.map _)
    exact hsorted.sublist (hsub.map _)
  · intro record hrecord
    obtain ⟨r, hr, hr'⟩ := hread.exists_row hrecord
    obtain ⟨hmem, hskipped⟩ := List.mem_filter.1 (Row.mem_sorted.1 (hsub.subset hr))
    exact ⟨r, hmem, (Row.legacyId_of_read hr').symm, (Bool.and_eq_true_iff.1 hskipped).2⟩

/-- Dated rows are all of the one entity type. -/
theorem isOf_and_isSkipped {rows : List Row} (hdated : ∀ r ∈ rows, r.IsDated) {r : Row}
    (hr : r ∈ rows) : (r.isOf .processInstance && r.isSkipped) = r.isSkipped := by
  rw [(hdated r hr).isOf, Bool.true_and]

/-- The answer to a request for the number of records. -/
theorem count_run {t : StoreTables} {rows : List Row} {db : Database} (h : t.Holds rows db)
    (type : EntityType) (keep : Row → Bool) :
    (count t type keep).run db = (.ok (rows.countP fun r => r.isOf type && keep r), db) := by
  show ((((db.rows t.mapping).map _).mapError _ : Except StoreError _), db) = _
  rw [show db.rows t.mapping = .ok rows from h]
  rfl

/-- The number of skipped records. -/
theorem countSkipped_answered {t : StoreTables} {rows : List Row} {db : Database}
    (h : t.Holds rows db) :
    (countSkipped t .processInstance).run db =
      (.ok (rows.countP fun r => r.isOf .processInstance && r.isSkipped), db) :=
  count_run h .processInstance Row.isSkipped

/-- The number of skipped records, where all are of the one entity type. -/
theorem countSkipped_run {t : StoreTables} {rows : List Row} {db : Database} (h : t.Holds rows db)
    (hdated : ∀ r ∈ rows, r.IsDated) :
    (countSkipped t .processInstance).run db = (.ok (rows.countP Row.isSkipped), db) := by
  have hcount : (rows.countP fun r => r.isOf .processInstance && r.isSkipped) =
      rows.countP Row.isSkipped := by
    apply List.countP_congr
    intro r hr
    rw [isOf_and_isSkipped hdated hr]
  rw [countSkipped_answered h, hcount]

end Store
end ProcessMigration
