import ProcessMigration.Proofs.Ledger
import ProcessMigration.Proofs.Ownership
import ProcessMigration.Proofs.RowOrder

/-!
# The retry pass

The pass that retries pages through a set that it makes smaller itself: a record that is carried over
leaves the skipped ones, the others are kept and passed over by the offset of the next page.

* An `Attempt` is a record that was tried again, with what was started for it;
* `Migrator.Course` is the course of a pass: records are tried again one after the other, and in
  between there are only questions and drains;
* `Trial.Settled` says what the attempts so far have made of the rows: `Settled.step` is the step
  lemma, `Trial.Position.remaining` says that the rows still to come are those behind the kept ones;
* `Trial.retry_visits_each_skipped_row_once` sums it up for every pass, whether it ends or breaks off.
-/

namespace ProcessMigration

open ProcessMigration.Action (Triple)

/-! ## Attempts -/

/-- A record that was tried again, with the request and the answer if an instance was started. -/
structure Attempt where
  record : MappingRecord
  started : Option (CreateRequest × InstanceHandle)

namespace Attempt

/-- The record was carried over. -/
def carried (a : Attempt) : Bool := a.started.isSome

/-- The key that the attempt gives to an id. -/
def keyFor? (id : String) (a : Attempt) : Option Int :=
  if a.record.legacyId = id then a.started.map (·.2.instanceKey) else none

/-- A record is carried over if this workspace prepares its instance, with the request that it
prepares, and otherwise not. -/
def Follows (a : Attempt) (w : Workspace) (settings : MigrationSettings) (pipeline : Pipeline) :
    Prop :=
  match a.started with
  | some (request, _) =>
    ∃ prepared, w.Prepares settings pipeline a.record.legacyId prepared ∧ request = prepared.request
  | none => ¬∃ prepared, w.Prepares settings pipeline a.record.legacyId prepared

/-- With distinct ids the key of an id is the one of its attempt. -/
theorem findSome?_keyFor? {attempts : List Attempt}
    (hids : (attempts.map (·.record.legacyId)).Nodup) {a : Attempt} (ha : a ∈ attempts) :
    attempts.findSome? (keyFor? a.record.legacyId) = a.started.map (·.2.instanceKey) := by
  induction attempts with
  | nil => cases ha
  | cons b rest ih =>
    rw [List.map_cons, List.nodup_cons] at hids
    rw [List.findSome?_cons]
    by_cases hsame : b.record.legacyId = a.record.legacyId
    · -- then it is the attempt itself, and no later one is about its id
      have hba : a = b := by
        rcases List.mem_cons.1 ha with rfl | ha
        · rfl
        · exact absurd (hsame ▸ List.mem_map_of_mem ha) hids.1
      subst hba
      have hlater : rest.findSome? (keyFor? a.record.legacyId) = none := by
        rw [List.findSome?_eq_none_iff]
        intro c hc
        apply if_neg
        intro heq
        apply hids.1
        rw [← heq]
        exact List.mem_map_of_mem hc
      rw [keyFor?, if_pos rfl, hlater]
      cases a.started <;> rfl
    · have hmem : a ∈ rest := by
        rcases List.mem_cons.1 ha with rfl | ha
        · exact absurd rfl hsame
        · exact ha
      rw [keyFor?, if_neg hsame]
      exact ih hids.2 hmem

end Attempt

/-- A row after these attempts: flipped if one of them has carried its record over. -/
def Row.settled (attempts : List Attempt) (r : Row) : Row :=
  match attempts.findSome? (Attempt.keyFor? r.legacyId) with
  | some key => Store.flipped key r
  | none => r

/-! ## Courses -/

/-- The course of a pass from a state on: records are tried again one after the other, with this
outcome; in between the mapping store is asked, and jobs are handed over. -/
inductive Migrator.Course {σ : Type} (m : Migrator σ) (s₀ : RunState σ) :
    List (MappingRecord × Bool) → RunState σ → Prop where
  | start : Course m s₀ [] s₀
  | counted {tried s total s'} (h : Course m s₀ tried s)
    (hrun : (Run.store m.env.store.countSkipped).run s = (.ok total, s')) : Course m s₀ tried s'
  | paged {tried s request page s'} (h : Course m s₀ tried s)
    (hrun : (m.skippedPage request).run s = (.ok page, s')) : Course m s₀ tried s'
  | drained {tried s s'} (h : Course m s₀ tried s) (hrun : m.drain.run s = (.ok (), s')) :
    Course m s₀ tried s'
  | tried {tried s record carried s'} (h : Course m s₀ tried s)
    (hrun : (m.retryRecord record).run s = (.ok carried, s')) :
    Course m s₀ (tried ++ [(record, carried)]) s'

namespace Row

variable {attempts : List Attempt} {r : Row}

theorem legacyId_settled (attempts : List Attempt) (r : Row) :
    (r.settled attempts).legacyId = r.legacyId := by
  unfold settled
  split <;> rfl

theorem IsDated.settled (h : r.IsDated) (attempts : List Attempt) : (r.settled attempts).IsDated := by
  unfold Row.settled
  split
  · exact h.flipped _
  · exact h

theorem settled_nil (r : Row) : r.settled [] = r := rfl

/-- A row that is skipped after some attempts is as it was. -/
theorem settled_of_isSkipped (h : (r.settled attempts).isSkipped = true) :
    r.settled attempts = r ∧ attempts.findSome? (Attempt.keyFor? r.legacyId) = none := by
  unfold settled at h ⊢
  split
  · next key hkey =>
    rw [hkey] at h
    cases h
  · next hnone => exact ⟨rfl, hnone⟩

/-- A row that no attempt is about is as it was. -/
theorem settled_of_not_tried (h : ∀ a ∈ attempts, a.record.legacyId ≠ r.legacyId) :
    r.settled attempts = r := by
  have hnone : attempts.findSome? (Attempt.keyFor? r.legacyId) = none := by
    rw [List.findSome?_eq_none_iff]
    intro a ha
    exact if_neg (h a ha)
  unfold settled
  rw [hnone]

/-- A row is skipped after some attempts if none of them has carried it over. -/
theorem isSkipped_settled (hskipped : r.isSkipped = true) (attempts : List Attempt) :
    (r.settled attempts).isSkipped = (attempts.findSome? (Attempt.keyFor? r.legacyId)).isNone := by
  unfold settled
  split
  · next key hkey =>
    rw [hkey]
    rfl
  · next hnone =>
    rw [hnone]
    exact hskipped

theorem isSkipped_of_settled (h : (r.settled attempts).isSkipped = true) : r.isSkipped = true := by
  have hsame := (settled_of_isSkipped h).1
  rw [hsame] at h
  exact h

/-- One more attempt, about a row that was not flipped. -/
theorem settled_append (hskipped : (r.settled attempts).isSkipped = true) (a : Attempt) :
    r.settled (attempts ++ [a]) =
      match a.keyFor? r.legacyId with
      | some key => Store.flipped key r
      | none => r := by
  obtain ⟨_, hnone⟩ := settled_of_isSkipped hskipped
  unfold settled
  rw [List.findSome?_append, hnone, Option.none_or]
  simp only [List.findSome?_cons, List.findSome?_nil]
  cases a.keyFor? r.legacyId <;> rfl

/-- One more attempt changes no row of another id. -/
theorem settled_append_of_ne {a : Attempt} (h : a.record.legacyId ≠ r.legacyId) :
    r.settled (attempts ++ [a]) = r.settled attempts := by
  have hkey : a.keyFor? r.legacyId = none := if_neg h
  unfold settled
  rw [List.findSome?_append]
  simp only [List.findSome?_cons, List.findSome?_nil, hkey, Option.or_none]

end Row

namespace Trial

variable {settings : MigrationSettings} {pipeline : Pipeline} {w : Workspace} {rows : List Row}
  {l₀ l l' : Ledger} {done : List Attempt} {rest : List Row}

/-! ## What the attempts have made of the rows -/

/-- What attempts have made of a ledger with these rows. -/
structure Settled (w : Workspace) (settings : MigrationSettings) (pipeline : Pipeline)
    (rows : List Row) (l₀ : Ledger) (done : List Attempt) (l : Ledger) : Prop where
  of : l.Of w
  tables : l.tables = l₀.tables
  rows : l.tables.Holds (rows.map (Row.settled done)) l.database
  started : l.started = l₀.started ++ done.filterMap (·.started)
  fetched : l.tally.fetched = l₀.tally.fetched + done.length
  retried : l.tally.retried = l₀.tally.retried + done.countP (·.carried)
  outcomes : l.tally.retried + l.tally.stillSkipped + l.tally.vanished =
    l₀.tally.retried + l₀.tally.stillSkipped + l₀.tally.vanished + done.length
  follows : ∀ a ∈ done, a.Follows w settings pipeline

theorem Settled.start (hw : l₀.Of w) (hrows : l₀.tables.Holds rows l₀.database) :
    Settled w settings pipeline rows l₀ [] l₀ where
  of := hw
  tables := rfl
  rows := by
    have hsame : rows.map (Row.settled []) = rows := List.map_id'' Row.settled_nil rows
    rw [hsame]
    exact hrows
  started := by simp
  fetched := rfl
  retried := rfl
  outcomes := rfl
  follows := by
    intro a ha
    cases ha

/-- To carry a record over is to flip the row of its id, if that row is still skipped. -/
theorem flippedRows_settled {id : String} {key : Int}
    (hskipped : ∀ r ∈ rows, r.legacyId = id → (r.settled done).isSkipped = true)
    {a : Attempt} (hid : a.record.legacyId = id)
    (hkey : a.started.map (·.2.instanceKey) = some key) :
    Store.flippedRows id key (rows.map (Row.settled done)) =
      rows.map (Row.settled (done ++ [a])) := by
  unfold Store.flippedRows
  rw [List.map_map]
  apply List.map_congr_left
  intro r hr
  show (if Store.flips id (r.settled done) then Store.flipped key (r.settled done)
    else r.settled done) = _
  by_cases hsame : r.legacyId = id
  · have hskip := hskipped r hr hsame
    have hflips : Store.flips id (r.settled done) = true :=
      Store.flips_iff.2 ⟨(Row.legacyId_settled _ _).trans hsame, hskip⟩
    have hkeyFor : a.keyFor? r.legacyId = some key := by
      unfold Attempt.keyFor?
      rw [if_pos (hid.trans hsame.symm), hkey]
    rw [if_pos hflips, Row.settled_append hskip, hkeyFor, (Row.settled_of_isSkipped hskip).1]
  · have hflips : ¬Store.flips id (r.settled done) = true := by
      rw [Store.flips_iff, Row.legacyId_settled]
      intro h
      exact hsame h.1
    rw [if_neg hflips, Row.settled_append_of_ne]
    rw [hid]
    intro h
    exact hsame h.symm

/-- A record that is not carried over changes no row. -/
theorem settled_kept (done : List Attempt) {a : Attempt} (hkept : a.started = none) (r : Row) :
    r.settled (done ++ [a]) = r.settled done := by
  have hkey : a.keyFor? r.legacyId = none := by
    unfold Attempt.keyFor?
    rw [hkept]
    split <;> rfl
  unfold Row.settled
  rw [List.findSome?_append]
  simp only [List.findSome?_cons, List.findSome?_nil, hkey, Option.or_none]

theorem follows_append (h : ∀ a ∈ done, a.Follows w settings pipeline) {a : Attempt}
    (ha : a.Follows w settings pipeline) : ∀ a' ∈ done ++ [a], a'.Follows w settings pipeline := by
  intro a' ha'
  rcases List.mem_append.1 ha' with ha' | ha'
  · exact h a' ha'
  · rw [List.mem_singleton.1 ha']
    exact ha

/-- One more record has been tried again and is not carried over. -/
theorem Settled.keeps (h : Settled w settings pipeline rows l₀ done l) {record : MappingRecord}
    {tally : Tally} (hunprepared : ¬∃ prepared, w.Prepares settings pipeline record.legacyId prepared)
    (hfetched : tally.fetched = l.tally.fetched + 1) (hretried : tally.retried = l.tally.retried)
    (hothers : tally.stillSkipped + tally.vanished = l.tally.stillSkipped + l.tally.vanished + 1) :
    Settled w settings pipeline rows l₀ (done ++ [⟨record, none⟩]) { l with tally } := by
  obtain ⟨of, tables, hrows, started, fetched, retried, outcomes, follows⟩ := h
  constructor
  case of => exact ⟨of.source, of.definitions⟩
  case tables => exact tables
  case rows =>
    rw [List.map_congr_left fun r _ => settled_kept done (a := ⟨record, none⟩) rfl r]
    exact hrows
  case started => simp [started]
  case fetched => simp [hfetched, fetched, Nat.add_assoc]
  case retried => simp [hretried, retried, Attempt.carried, List.countP_append]
  case outcomes =>
    simp only [List.length_append, List.length_singleton]
    omega
  case follows => exact follows_append follows hunprepared

/-- One more record has been tried again. -/
theorem Settled.step {record : MappingRecord} {carried : Bool}
    (h : Settled w settings pipeline rows l₀ done l)
    (hskipped : ∀ r ∈ rows, r.legacyId = record.legacyId → (r.settled done).isSkipped = true)
    (hretries : Retries w settings pipeline record.legacyId (rows.map (Row.settled done)) l carried
      l') :
    ∃ a : Attempt, a.record = record ∧ a.carried = carried ∧
      Settled w settings pipeline rows l₀ (done ++ [a]) l' := by
  cases hretries with
  | carried prepared handle database hprepares hflipped =>
    obtain ⟨of, tables, hrows, started, fetched, retried, outcomes, follows⟩ := h
    have hkey : (Attempt.mk record (some (prepared.request, handle))).started.map
        (·.2.instanceKey) = some handle.instanceKey := rfl
    refine ⟨⟨record, some (prepared.request, handle)⟩, rfl, rfl, ?_⟩
    constructor
    case of => exact ⟨of.source, of.definitions⟩
    case tables => exact tables
    case rows =>
      rw [flippedRows_settled hskipped rfl hkey] at hflipped
      exact hflipped
    case started => simp [started]
    case fetched => simp [fetched, Nat.add_assoc]
    case retried => simp [retried, Attempt.carried, List.countP_append, Nat.add_assoc]
    case outcomes =>
      simp only [List.length_append, List.length_singleton]
      omega
    case follows => exact follows_append follows ⟨prepared, hprepares, rfl⟩
  | vanished hgone =>
    -- whoever is not in the source cannot have been prepared, so nothing had to be carried over
    refine ⟨⟨record, none⟩, rfl, rfl, h.keeps ?_ rfl rfl (by dsimp only; omega)⟩
    rintro ⟨prepared, i, hfound, _⟩
    rw [hgone] at hfound
    cases hfound
  | stillSkipped i reason hfound hskip =>
    refine ⟨⟨record, none⟩, rfl, rfl, h.keeps ?_ rfl rfl (by dsimp only; omega)⟩
    rintro ⟨prepared, i', hfound', hready⟩
    rw [hfound] at hfound'
    cases hfound'
    rw [hskip] at hready
    cases hready

/-! ## Where a pass stands -/

/-- The skipped rows in order, those that have been tried again first. -/
structure Position (rows : List Row) (done : List Attempt) (rest : List Row) : Prop where
  listing : ∃ tried, Row.sorted (rows.filter Row.isSkipped) = tried ++ rest ∧
    Store.ReadAs tried (done.map (·.record))

namespace Position

/-- Before the first attempt everything is still to come. -/
theorem start (rows : List Row) : Position rows [] (Row.sorted (rows.filter Row.isSkipped)) :=
  ⟨[], rfl, .nil⟩

/-- The next row is tried again. -/
theorem step {r : Row} (h : Position rows done (r :: rest)) {a : Attempt}
    (ha : Store.read r = .ok a.record) : Position rows (done ++ [a]) rest := by
  obtain ⟨tried, hlisting, hread⟩ := h.listing
  refine ⟨tried ++ [r], by simpa using hlisting, ?_⟩
  rw [List.map_append]
  exact List.rel_append hread (.cons ha .nil)

theorem length (h : Position rows done rest) :
    (Row.sorted (rows.filter Row.isSkipped)).length = done.length + rest.length := by
  obtain ⟨tried, hlisting, hread⟩ := h.listing
  have hlen := hread.length_eq
  rw [List.length_map] at hlen
  rw [hlisting, List.length_append, hlen]

/-- The rows still to come are rows of the table and skipped. -/
theorem mem_rest (h : Position rows done rest) {r : Row} (hr : r ∈ rest) :
    r ∈ rows ∧ r.isSkipped = true := by
  obtain ⟨tried, hlisting, _⟩ := h.listing
  have hmem : r ∈ Row.sorted (rows.filter Row.isSkipped) := by
    rw [hlisting]
    exact List.mem_append_right _ hr
  exact List.mem_filter.1 (Row.mem_sorted.1 hmem)

/-- The records tried again are those of the rows that come first. -/
theorem records {records : List MappingRecord} (h : Position rows done rest)
    (hdated : ∀ r ∈ rows, r.IsDated)
    (hread : Store.ReadAs (Row.sorted (rows.filter Row.isSkipped)) records) :
    ∃ later, records = done.map (·.record) ++ later ∧ later.length = rest.length := by
  obtain ⟨tried, hlisting, htried⟩ := h.listing
  obtain ⟨later, hlater⟩ := Store.readAs_of_isDated fun r hr => hdated r (h.mem_rest hr).1
  have hall : Store.ReadAs (Row.sorted (rows.filter Row.isSkipped))
      (done.map (·.record) ++ later) := by
    rw [hlisting]
    exact List.rel_append htried hlater
  exact ⟨later, hread.unique hall, hlater.length_eq.symm⟩

theorem nodup (h : Position rows done rest) (hids : (rows.map (·.legacyId)).Nodup) :
    (done.map (·.record.legacyId) ++ rest.map (·.legacyId)).Nodup := by
  obtain ⟨tried, hlisting, hread⟩ := h.listing
  have hsame : tried.map (·.legacyId) = done.map (·.record.legacyId) := by
    rw [hread.ids, List.map_map]
    rfl
  have hsorted : ((Row.sorted (rows.filter Row.isSkipped)).map (·.legacyId)).Nodup := by
    refine ((Row.sorted_perm _).map (·.legacyId)).nodup_iff.2 ?_
    exact hids.sublist (List.filter_sublist.map _)
  rw [hlisting, List.map_append, hsame] at hsorted
  exact hsorted

/-- No attempt so far was about a row that is still to come. -/
theorem not_tried (h : Position rows done rest) (hids : (rows.map (·.legacyId)).Nodup) {r : Row}
    (hr : r ∈ rest) : ∀ a ∈ done, a.record.legacyId ≠ r.legacyId := by
  intro a ha heq
  have hdisjoint := (List.nodup_append.1 (h.nodup hids)).2.2
  exact hdisjoint _ (List.mem_map_of_mem ha) _ (List.mem_map_of_mem hr) heq

/-- The rows that are skipped by now, in order: first those that were tried again and kept, then those
that are still to come. -/
theorem remaining (h : Position rows done rest) (hids : (rows.map (·.legacyId)).Nodup) :
    ∃ kept, Row.sorted ((rows.map (Row.settled done)).filter Row.isSkipped) = kept ++ rest ∧
      kept.length = done.countP fun a => !a.carried := by
  have hdone := (List.nodup_append.1 (h.nodup hids)).1
  obtain ⟨tried, hlisting, hread⟩ := h.listing
  -- what is skipped now was skipped before, and did not change
  have hnow : (rows.map (Row.settled done)).filter Row.isSkipped =
      (rows.filter Row.isSkipped).filter fun r => (r.settled done).isSkipped := by
    rw [List.filter_map, List.filter_filter]
    have hfilter : rows.filter (Row.isSkipped ∘ Row.settled done) =
        rows.filter fun r => (r.settled done).isSkipped && r.isSkipped := by
      apply List.filter_congr
      intro r _
      show (r.settled done).isSkipped = ((r.settled done).isSkipped && r.isSkipped)
      cases hnow : (r.settled done).isSkipped with
      | false => rfl
      | true => rw [Row.isSkipped_of_settled hnow, Bool.and_self]
    rw [hfilter]
    refine (List.map_congr_left ?_).trans (List.map_id _)
    intro r hr
    have hskipped := (List.mem_filter.1 hr).2
    rw [Bool.and_eq_true] at hskipped
    exact (Row.settled_of_isSkipped hskipped.1).1
  have hids' : ((rows.filter Row.isSkipped).map (·.legacyId)).Nodup :=
    hids.sublist (List.filter_sublist.map _)
  rw [hnow, ← Row.sorted_filter hids', hlisting, List.filter_append]
  refine ⟨tried.filter fun r => (r.settled done).isSkipped, ?_, ?_⟩
  · congr 1
    rw [List.filter_eq_self]
    intro r hr
    rw [Row.settled_of_not_tried (h.not_tried hids hr)]
    exact (h.mem_rest hr).2
  · -- a row that was tried again is still skipped if its attempt has not carried it over
    have hskipped : ∀ r ∈ tried, r.isSkipped = true := by
      intro r hr
      have hmem : r ∈ Row.sorted (rows.filter Row.isSkipped) := by
        rw [hlisting]
        exact List.mem_append_left _ hr
      exact (List.mem_filter.1 (Row.mem_sorted.1 hmem)).2
    have houtcomes : List.Forall₂ (fun r a => (r.settled done).isSkipped = !a.carried) tried done := by
      have hpairs := List.forall₂_map_right_iff.1 hread
      refine List.forall₂_iff_zip.2 ⟨hpairs.length_eq, ?_⟩
      intro r a hra
      have hid := Row.legacyId_of_read ((List.forall₂_iff_zip.1 hpairs).2 hra)
      have hmem := List.of_mem_zip hra
      rw [Row.isSkipped_settled (hskipped r hmem.1), ← hid,
        Attempt.findSome?_keyFor? hdone hmem.2]
      unfold Attempt.carried
      cases a.started <;> rfl
    rw [← List.countP_eq_length_filter]
    have hbools := List.forall₂_map_left_iff.2 (List.forall₂_map_right_iff.2 houtcomes)
    rw [List.forall₂_eq_eq_eq] at hbools
    have hcounts := congrArg (List.countP id) hbools
    rw [List.countP_map, List.countP_map] at hcounts
    exact hcounts

end Position

/-! ## The pass -/

/-- A pass over these rows, somewhere on its way: the records of `done` have been tried again, the
rows of `rest` are still to come. -/
structure Stage (w : Workspace) (settings : MigrationSettings) (pipeline : Pipeline)
    (rows : List Row) (s₁ : RunState Trial) (done : List Attempt) (rest : List Row)
    (s : RunState Trial) : Prop where
  course :
    (migrator settings pipeline).Course s₁ (done.map fun a => (a.record, a.carried)) s
  settled : Settled w settings pipeline rows s₁.ledger done s.ledger
  position : Position rows done rest

/-- What a pass that breaks off leaves behind. -/
def BrokenOff (w : Workspace) (settings : MigrationSettings) (pipeline : Pipeline)
    (rows : List Row) (s₁ s : RunState Trial) : Prop :=
  ∃ done rest s₂, Stage w settings pipeline rows s₁ done rest s₂ ∧ s₂.ledger.Halts s.ledger

variable {s₁ : RunState Trial}

/-- What leaves the ledger alone changes nothing of where a pass stands. -/
theorem stage_quiet {α : Type} {x : Run Trial α} {Q : Ledger → α → Prop}
    (hx : ∀ l, l.Of w → Triple (At l) x (fun a s => At l s ∧ Q l a) (At l))
    (hcourse : ∀ tried s a s', (migrator settings pipeline).Course s₁ tried s →
      x.run s = (.ok a, s') → (migrator settings pipeline).Course s₁ tried s') :
    Triple (Stage w settings pipeline rows s₁ done rest) x
      (fun a s => Stage w settings pipeline rows s₁ done rest s ∧ Q s.ledger a)
      (BrokenOff w settings pipeline rows s₁) := by
  apply Triple.of_state
  intro s₀ hs₀
  refine ((hx s₀.ledger hs₀.settled.of).runs rfl).ends ?_ ?_
  · intro a s ⟨hrun, hs, hq⟩
    have hsame : s.ledger = s₀.ledger := hs
    refine ⟨⟨hcourse _ _ _ _ hs₀.course hrun, ?_, hs₀.position⟩, ?_⟩
    · rw [hsame]
      exact hs₀.settled
    · rw [hsame]
      exact hq
  · intro s hs
    refine ⟨done, rest, s₀, hs₀, ?_⟩
    rw [show s.ledger = s₀.ledger from hs]
    exact .refl _

theorem drain_stage : Triple (Stage w settings pipeline rows s₁ done rest)
    (migrator settings pipeline).drain
    (fun _ => Stage w settings pipeline rows s₁ done rest)
    (BrokenOff w settings pipeline rows s₁) := by
  refine (stage_quiet (Q := fun _ _ => True) ?_ ?_).post fun _ s hs => hs.1
  · intro l hw
    exact (drain_ledger hw).post fun _ s hs => ⟨hs, trivial⟩
  · intro _ _ _ _ hcourse hrun
    exact hcourse.drained hrun

theorem drainWhenFull_stage : Triple (Stage w settings pipeline rows s₁ done rest)
    (migrator settings pipeline).drainWhenFull
    (fun _ => Stage w settings pipeline rows s₁ done rest)
    (BrokenOff w settings pipeline rows s₁) := by
  unfold Migrator.drainWhenFull
  refine Triple.bind (M := fun _ => Stage w settings pipeline rows s₁ done rest)
    (Triple.get fun s hs => hs) ?_
  intro s₀
  split
  · exact drain_stage
  · exact Triple.pure fun s hs => hs

/-- The total that a pass counts at its start. -/
theorem countSkipped_stage (hdated : ∀ r ∈ rows, r.IsDated) :
    Triple (Stage w settings pipeline rows s₁ [] rest)
      (Run.store (migrator settings pipeline).env.store.countSkipped)
      (fun total s => Stage w settings pipeline rows s₁ [] rest s ∧
        total = (Row.sorted (rows.filter Row.isSkipped)).length)
      (BrokenOff w settings pipeline rows s₁) := by
  refine (stage_quiet (fun l _ => asksStore_ledger (l := l)
    (fun t => Store.countSkipped t .processInstance) fun _ => Store.countSkipped_readOnly _)
    fun _ _ _ _ hcourse hrun => hcourse.counted hrun).post ?_
  intro total s ⟨hs, htotal⟩
  refine ⟨hs, ?_⟩
  have hsame : rows.map (Row.settled []) = rows := List.map_id'' Row.settled_nil rows
  have hrows := hs.settled.rows
  rw [hsame] at hrows
  rw [Store.countSkipped_run hrows hdated] at htotal
  rw [← Except.ok.inj htotal, (Row.sorted_perm _).length_eq, List.countP_eq_length_filter]

/-- The record of the next row is tried again. -/
theorem retryRecord_stage (hids : (rows.map (·.legacyId)).Nodup) {r : Row} {record : MappingRecord}
    (hread : Store.read r = .ok record) :
    Triple (Stage w settings pipeline rows s₁ done (r :: rest))
      ((migrator settings pipeline).retryRecord record)
      (fun carried s => ∃ a : Attempt, a.carried = carried ∧
        Stage w settings pipeline rows s₁ (done ++ [a]) rest s)
      (BrokenOff w settings pipeline rows s₁) := by
  apply Triple.of_state
  intro s₀ hs₀
  have hid := Row.legacyId_of_read hread
  obtain ⟨hmem, hskip⟩ := hs₀.position.mem_rest List.mem_cons_self
  -- the row has not been touched by the attempts so far
  have hsame : r.settled done = r :=
    Row.settled_of_not_tried (hs₀.position.not_tried hids List.mem_cons_self)
  have hskipped : ∀ r' ∈ rows, r'.legacyId = record.legacyId →
      (r'.settled done).isSkipped = true := by
    intro r' hr' hid'
    have heq : r' = r := List.inj_on_of_nodup_map hids hr' hmem (hid'.trans hid)
    rw [heq, hsame]
    exact hskip
  have hthere : ∃ r' ∈ rows.map (Row.settled done), r'.legacyId = record.legacyId ∧
      r'.isSkipped = true := by
    refine ⟨r, List.mem_map.2 ⟨r, hmem, hsame⟩, hid.symm, hskip⟩
  have hrecord : Triple (At s₀.ledger) ((migrator settings pipeline).retryRecord record)
      (fun carried s => Retries w settings pipeline record.legacyId (rows.map (Row.settled done))
        s₀.ledger carried s.ledger)
      (fun s => s₀.ledger.Halts s.ledger) :=
    retryRecord_ledger hs₀.settled.of hs₀.settled.rows record hthere
  refine (hrecord.runs rfl).ends ?_ ?_
  · intro carried s ⟨hrun, hretries⟩
    obtain ⟨a, rfl, rfl, hsettled⟩ := hs₀.settled.step hskipped hretries
    refine ⟨a, rfl, ?_, hsettled, hs₀.position.step hread⟩
    rw [List.map_append]
    exact hs₀.course.tried hrun
  · intro s hs
    exact ⟨done, _, s₀, hs₀, hs⟩

/-! ## Pages of the pass -/

/-- The paging counts as kept what was tried again and not carried over. -/
def Aligned (pageSize total : Nat) (done : List Attempt) (visited : Nat)
    (p : Paging MappingRecord) : Prop :=
  p.Reached .pinned pageSize total (done.countP fun a => !a.carried) visited

/-- Where a pass stands before the next page. -/
def BeforePage (w : Workspace) (settings : MigrationSettings) (pipeline : Pipeline)
    (rows : List Row) (s₁ : RunState Trial) (p : Paging MappingRecord) (s : RunState Trial) : Prop :=
  ∃ done rest, Stage w settings pipeline rows s₁ done rest s ∧
    Aligned settings.pageSize (Row.sorted (rows.filter Row.isSkipped)).length done done.length p ∧
    (p.exhausted = true → rest = [])

/-- Where a pass stands with these records of a page still to be tried again. -/
def OnPage (w : Workspace) (settings : MigrationSettings) (pipeline : Pipeline)
    (rows : List Row) (s₁ : RunState Trial) (p : Paging MappingRecord) (page : List MappingRecord)
    (s : RunState Trial) : Prop :=
  ∃ done todo rest, Stage w settings pipeline rows s₁ done (todo ++ rest) s ∧
    Store.ReadAs todo page ∧
    Aligned settings.pageSize (Row.sorted (rows.filter Row.isSkipped)).length done
      (done.length + page.length) p ∧
    p.exhausted = false

/-- A page begins with the first row that is still to come. -/
theorem skippedPage_stage (hids : (rows.map (·.legacyId)).Nodup) (hdated : ∀ r ∈ rows, r.IsDated)
    (hrange : rows.length < 2 ^ 63) (hsize : settings.pageSize < 2 ^ 64)
    (p : Paging MappingRecord) (request : PageRequest MappingRecord)
    (hrequest : p.request? = some request) :
    Triple (BeforePage w settings pipeline rows s₁ p)
      ((migrator settings pipeline).skippedPage request)
      (fun page s => if page = [] then BeforePage w settings pipeline rows s₁ (p.received []) s
        else OnPage w settings pipeline rows s₁ (p.received page) page s)
      (BrokenOff w settings pipeline rows s₁) := by
  apply Triple.of_exists
  intro done
  apply Triple.of_exists
  intro rest
  apply Triple.of_state
  rintro s₀ ⟨hs₀, haligned, _⟩
  have hasked := (haligned.offset_eq hrequest).1 rfl
  have hlimit := haligned.limit_eq hrequest
  -- the offset passes over the rows that were kept
  have hposition := hs₀.position
  obtain ⟨kept, hremaining, hkeptlen⟩ := hposition.remaining hids
  have hbound : done.length ≤ rows.length := by
    have hlen := hposition.length
    have hle : (Row.sorted (rows.filter Row.isSkipped)).length ≤ rows.length := by
      rw [(Row.sorted_perm _).length_eq]
      exact List.length_filter_le _ _
    omega
  have hoffset : request.offset < 2 ^ 63 := by
    have hle := List.countP_le_length (p := fun a : Attempt => !a.carried) (l := done)
    omega
  obtain ⟨n, hn, hcut⟩ := Store.cut_eq hoffset
    (show 1 ≤ request.limit by omega) (show request.limit < 2 ^ 64 by omega) (kept ++ rest)
  have hpage : Store.cut request.offset request.limit (kept ++ rest) = rest.take n := by
    rw [hcut, hasked, ← hkeptlen, List.drop_left]
  have hdated' : ∀ r ∈ rows.map (Row.settled done), r.IsDated := by
    intro r hr
    obtain ⟨r', hr', rfl⟩ := List.mem_map.1 hr
    exact (hdated r' hr').settled done
  have hlisted : (rows.map (Row.settled done)).filter
      (fun r => r.isOf .processInstance && r.isSkipped) =
      (rows.map (Row.settled done)).filter Row.isSkipped :=
    List.filter_congr fun r hr => Store.isOf_and_isSkipped hdated' hr
  refine ((stage_quiet (fun l _ => asksStore_ledger (l := l)
    (fun t => Store.skipped t .processInstance request.offset request.limit)
    fun _ => Store.skipped_readOnly _ _ _) fun _ _ _ _ hcourse hrun => hcourse.paged hrun).pre
    fun s hs => hs ▸ hs₀).post ?_
  intro page s ⟨hs, hanswer⟩
  rw [Store.skipped_run hs.settled.rows, hlisted, hremaining, hpage, Store.readAs_iff] at hanswer
  split
  · next hempty =>
    -- an empty page leaves nothing behind it
    rw [hempty] at hanswer
    exact ⟨done, rest, hs, haligned.received_nil, fun _ => hanswer.eq_nil_of_take hn⟩
  · next hnonempty =>
    obtain ⟨haligned', hactive⟩ := haligned.received (by decide) hnonempty
    refine ⟨done, rest.take n, rest.drop n, ?_, hanswer, haligned', hactive⟩
    rw [List.take_append_drop]
    exact hs

/-- The records of a page are tried again one after the other. -/
theorem retryPage_stage (hids : (rows.map (·.legacyId)).Nodup) (page : List MappingRecord)
    (p : Paging MappingRecord) :
    Triple (OnPage w settings pipeline rows s₁ p page)
      ((migrator settings pipeline).retryPage p page)
      (fun p' s => OnPage w settings pipeline rows s₁ p' [] s ∧ p'.total = p.total ∧
        p'.itemsVisited = p.itemsVisited)
      (BrokenOff w settings pipeline rows s₁) := by
  induction page generalizing p with
  | nil => exact Triple.pure fun s hs => ⟨hs, rfl, rfl⟩
  | cons record page ih =>
    unfold Migrator.retryPage
    apply Triple.of_exists
    intro done
    apply Triple.of_exists
    intro todo
    apply Triple.of_exists
    intro rest
    apply Triple.of_state
    intro s₀ hpage
    obtain ⟨hs₀, htodo, haligned, hactive⟩ := hpage
    obtain ⟨r, todo', hread, htodo', rfl⟩ := List.forall₂_cons_right_iff.1 htodo
    obtain ⟨hmode, hpageSize, htotal, hkept, hvisited⟩ := haligned
    rw [List.cons_append] at hs₀
    refine Triple.bind ((retryRecord_stage hids hread).pre fun s hs => hs ▸ hs₀) ?_
    intro carried
    apply Triple.of_exists
    intro a
    apply Triple.of_and
    intro hcarried
    have hlen : done.length + (record :: page).length = (done ++ [a]).length + page.length := by
      simp only [List.length_append, List.length_cons, List.length_nil]
      omega
    cases carried with
    | true =>
      -- the row has left the set, and the offset stays
      refine (ih p).pre ?_
      intro s hs
      refine ⟨done ++ [a], todo', rest, hs, htodo', ?_, hactive⟩
      refine ⟨hmode, hpageSize, htotal, ?_, hvisited.trans hlen⟩
      simp [hkept, List.countP_append, hcarried]
    | false =>
      refine (ih p.keepOne).pre ?_
      intro s hs
      refine ⟨done ++ [a], todo', rest, hs, htodo', ?_, hactive⟩
      refine ⟨hmode, hpageSize, htotal, ?_, hvisited.trans hlen⟩
      simp [Paging.keepOne, hkept, List.countP_append, hcarried]

/-- A pass that ends has tried all skipped rows. -/
theorem retryPass_stage (hids : (rows.map (·.legacyId)).Nodup) (hdated : ∀ r ∈ rows, r.IsDated)
    (hrange : rows.length < 2 ^ 63) (hsize : settings.pageSize < 2 ^ 64) :
    Triple
      (Stage w settings pipeline rows s₁ [] (Row.sorted (rows.filter Row.isSkipped)))
      (migrator settings pipeline).retryPass
      (fun _ s => ∃ done, Stage w settings pipeline rows s₁ done [] s)
      (BrokenOff w settings pipeline rows s₁) := by
  unfold Migrator.retryPass
  refine Triple.bind (countSkipped_stage hdated) ?_
  intro total
  apply Triple.of_state
  rintro s₀ ⟨hs₀, htotal⟩
  subst htotal
  refine Triple.bind (M := fun _ s => ∃ done, Stage w settings pipeline rows s₁ done [] s) ?_
    fun _ => Triple.of_exists fun done => drain_stage.post fun _ s hs => ⟨done, hs⟩
  refine ((Triple.forPages (I := BeforePage w settings pipeline rows s₁)
    (M := OnPage w settings pipeline rows s₁) ?_ ?_ _ _ (Paging.fueled_start _ _ _)).pre ?_).post ?_
  · exact skippedPage_stage hids hdated hrange hsize
  · intro p page
    refine Triple.bind (retryPage_stage hids page p) ?_
    intro p'
    apply Triple.of_state
    rintro s₂ ⟨hs₂, htotal', hvisited'⟩
    obtain ⟨done, todo, rest, hs₂, htodo, haligned, hactive⟩ := hs₂
    -- the records of a page were read of as many rows, so at its end none of them is left
    rw [List.forall₂_nil_right_iff.1 htodo, List.nil_append] at hs₂
    refine Triple.bind (drainWhenFull_stage.pre fun s hs => hs ▸ hs₂) ?_
    intro _
    apply Triple.pure
    intro s hs
    refine ⟨⟨done, rest, hs, haligned, ?_⟩, htotal', hvisited'⟩
    intro hexhausted
    rw [hactive] at hexhausted
    cases hexhausted
  · intro s hs
    subst hs
    refine ⟨[], _, hs₀, Paging.reached_start _ _ _, ?_⟩
    intro h
    cases h
  · rintro p s ⟨p₀, ⟨done, rest, hs, haligned, hexhausted⟩, hnone⟩
    refine ⟨done, ?_⟩
    have hrest : rest = [] := haligned.nothing_left hs.position.length hexhausted hnone
    rw [hrest] at hs
    exact hs

/-! ## All passes -/

/-- The state in which a pass that retries begins. -/
def freshRun (s : RunState Trial) : RunState Trial :=
  { s with report := { mode := .retrySkipped }, output := {}, givenUp := [] }

/-- What a pass from `s` on has done by the state `s'`, having tried these records again. -/
structure Revisited (settings : MigrationSettings) (pipeline : Pipeline) (rows : List Row)
    (attempts : List Attempt) (s s' : RunState Trial) : Prop where
  /-- The records were tried again one after the other, with this outcome. -/
  course : (migrator settings pipeline).Course (freshRun s)
    (attempts.map fun a => (a.record, a.carried)) s'
  /-- A record is carried over if its instance can be, with what is prepared for it. -/
  follows : ∀ a ∈ attempts, a.Follows s.world.world settings pipeline
  /-- For each record that was carried over an instance was started. -/
  started : s'.world.started = s.world.started ++ attempts.filterMap (·.started)
  /-- Each attempt is about a skipped row, which is flipped to the key of what was started for it, or
  else as it was. -/
  tried : ∀ a ∈ attempts, ∃ r ∈ rows, r.legacyId = a.record.legacyId ∧ r.isSkipped = true ∧
    r.settled attempts =
      match a.started with
      | some (_, handle) => Store.flipped handle.instanceKey r
      | none => r
  /-- All other rows are as they were. -/
  untouched : ∀ r ∈ rows, (∀ a ∈ attempts, a.record.legacyId ≠ r.legacyId) →
    r.settled attempts = r
  /-- These rows are the ones that the store has now. -/
  rows : s.world.world.tables.Holds (rows.map (Row.settled attempts)) s'.world.world.database
  fetched : s'.report.fetched = attempts.length
  retried : s'.report.retried = attempts.countP (·.carried)
  outcomes :
    s'.report.retried + s'.report.stillSkipped + s'.report.vanished = attempts.length

/-- What a pass has done, by where it stands. -/
theorem Stage.revisited {s s' : RunState Trial} (hids : (rows.map (·.legacyId)).Nodup)
    (h : Stage s.world.world settings pipeline rows (freshRun s) done rest s') :
    Revisited settings pipeline rows done s s' := by
  obtain ⟨course, settled, position⟩ := h
  have hdone := (List.nodup_append.1 (position.nodup hids)).1
  constructor
  case course => exact course
  case follows => exact settled.follows
  case started => exact settled.started
  case tried =>
    intro a ha
    -- what was tried is what was read of the first rows of the listing
    obtain ⟨tried, hlisting, hread⟩ := position.listing
    obtain ⟨r, hr, hra⟩ := hread.exists_row (List.mem_map_of_mem ha)
    have hid := Row.legacyId_of_read hra
    have hmem : r ∈ Row.sorted (rows.filter Row.isSkipped) := by
      rw [hlisting]
      exact List.mem_append_left _ hr
    obtain ⟨hrow, hskipped⟩ := List.mem_filter.1 (Row.mem_sorted.1 hmem)
    refine ⟨r, hrow, hid.symm, hskipped, ?_⟩
    unfold Row.settled
    rw [← hid, Attempt.findSome?_keyFor? hdone ha]
    cases a.started <;> rfl
  case untouched =>
    intro r _ hr
    exact Row.settled_of_not_tried hr
  case rows =>
    have htables := settled.tables
    have hrows := settled.rows
    rw [htables] at hrows
    exact hrows
  case fetched => exact settled.fetched.trans (Nat.zero_add _)
  case retried => exact settled.retried.trans (Nat.zero_add _)
  case outcomes => exact settled.outcomes.trans (Nat.zero_add _)

variable (pipeline) in
/-- A run over these rows has tried all that are skipped, or it breaks off between two attempts. -/
theorem run_stage {s : RunState Trial}
    (hrows : s.world.world.tables.Holds rows s.world.world.database)
    (hids : (rows.map (·.legacyId)).Nodup) (hdated : ∀ r ∈ rows, r.IsDated)
    (hrange : rows.length < 2 ^ 63) (hsize : settings.pageSize < 2 ^ 64) :
    Triple (fun s' => s' = s) ((migrator settings pipeline).run .retrySkipped)
      (fun report s' => report = s'.report ∧
        ∃ done, Stage s.world.world settings pipeline rows (freshRun s) done [] s')
      (BrokenOff s.world.world settings pipeline rows (freshRun s)) := by
  unfold Migrator.run
  refine Triple.bind (M := fun _ s' => s' = freshRun s) ?_ ?_
  · apply Triple.modify
    intro s' hs'
    subst hs'
    rfl
  · intro _
    refine Triple.bind ((retryPass_stage hids hdated hrange hsize).pre ?_) ?_
    · intro s' hs'
      subst hs'
      exact ⟨.start, .start ⟨rfl, rfl⟩ hrows, .start rows⟩
    · intro _
      refine Triple.bind (M := fun s₁ s' => s₁ = s' ∧
        ∃ done, Stage s.world.world settings pipeline rows (freshRun s) done [] s')
        (Triple.get fun s' hs' => ⟨rfl, hs'⟩) ?_
      intro s₁
      apply Triple.pure
      rintro s' ⟨hs', hstage⟩
      refine ⟨?_, hstage⟩
      rw [hs']

/-- A pass that retries, over a store whose start dates are missing or have a year of four digits,
tries the skipped records again in the order of start dates and ids: if it ends, each of them exactly
once; if it breaks off, as far as it came. A row is flipped exactly if its instance is prepared, with
the key of the instance that was started; all other rows stay as they were. -/
theorem retry_visits_each_skipped_row_once (settings : MigrationSettings) (pipeline : Pipeline)
    (s : RunState Trial) (rows : List Row)
    (hrows : s.world.world.tables.Holds rows s.world.world.database) (hlaw : Store.Lawful rows)
    (hdated : ∀ r ∈ rows, r.IsDated) (hrange : rows.length < 2 ^ 63)
    (hsize : settings.pageSize < 2 ^ 64) :
    ∃ records attempts,
      (Row.sorted (rows.filter Row.isSkipped)).mapM Store.read = .ok records ∧
      records.Pairwise (fun a b => a.cursor.lt b.cursor = true) ∧
      ((Store.countSkipped s.world.world.tables .processInstance).run
        s.world.world.database).1 = .ok records.length ∧
      match ((migrator settings pipeline).run .retrySkipped).run s with
      | (.ok report, s') => report = s'.report ∧ attempts.map (·.record) = records ∧
        Revisited settings pipeline rows attempts s s'
      | (.error _, s') => attempts.map (·.record) <+: records ∧
        ∃ s₂, Revisited settings pipeline rows attempts s s₂ ∧
          s'.world.world.database = s₂.world.world.database := by
  have hids := hlaw.ids
  have hids' : ((rows.filter Row.isSkipped).map (·.legacyId)).Nodup :=
    hids.sublist (List.filter_sublist.map _)
  have hlisted : ∀ r ∈ Row.sorted (rows.filter Row.isSkipped), r.IsDated := by
    intro r hr
    exact hdated r (List.mem_filter.1 (Row.mem_sorted.1 hr)).1
  obtain ⟨records, hread⟩ := Store.readAs_of_isDated hlisted
  have hlen := hread.length_eq
  have horder : records.Pairwise fun a b => a.cursor.lt b.cursor = true :=
    hread.ascending hlisted (Row.sorted_ascending hids')
  have hcount : ((Store.countSkipped s.world.world.tables .processInstance).run
      s.world.world.database).1 = .ok records.length := by
    rw [Store.countSkipped_run hrows hdated, ← hlen, (Row.sorted_perm _).length_eq,
      List.countP_eq_length_filter]
  have hend := run_stage pipeline hrows hids hdated hrange hsize s rfl
  split at hend
  · -- at the end of a pass no row is left to be tried
    next report s' hrun =>
    obtain ⟨hreport, done, hstage⟩ := hend
    obtain ⟨later, hrecords, hlater⟩ := hstage.position.records hdated hread
    refine ⟨records, done, Store.readAs_iff.2 hread, horder, hcount, ?_⟩
    rw [List.length_eq_zero_iff.1 hlater, List.append_nil] at hrecords
    rw [hrun]
    exact ⟨hreport, hrecords.symm, hstage.revisited hids⟩
  · -- a pass that breaks off stands at the last whole attempt; after it no row is changed any more,
    -- though an instance may have been started
    next e s' hrun =>
    obtain ⟨done, rest, s₂, hstage, hhalts⟩ := hend
    obtain ⟨later, hrecords, _⟩ := hstage.position.records hdated hread
    refine ⟨records, done, Store.readAs_iff.2 hread, horder, hcount, ?_⟩
    rw [hrun]
    refine ⟨⟨later, hrecords.symm⟩, s₂, hstage.revisited hids, ?_⟩
    obtain ⟨tally, lost, unrecorded, hledger, _⟩ := hhalts
    exact congrArg Ledger.database hledger

/-- An instance that was migrated, and the order, which was skipped. -/
def leftovers : List Row :=
  [.ofRecord (.migrated "b" 7 (some ⟨1772352060, 0⟩)), .ofRecord (.skipped "a" none "no listener")]

/-- A run over the order and these rows. -/
def beforeRetry : RunState Trial :=
  { world := { world := { Session.oneOrder with
      database := ⟨[⟨"migration_mapping", .mapping leftovers⟩], []⟩ } } }

/-- The order is tried again and carried over. -/
theorem retry_visits_order :
    ∃ a s', ((migrator { pageSize := 1 } .empty).run .retrySkipped).run beforeRetry =
        (.ok { mode := .retrySkipped, fetched := 1, retried := 1, jobsActivated := 1 }, s') ∧
      a.record = .skipped "a" none "no listener" ∧
      Revisited { pageSize := 1 } .empty leftovers [a] beforeRetry s' := by
  have hdated : ∀ r ∈ leftovers, r.IsDated := by
    intro r hr
    simp only [leftovers, List.mem_cons, List.not_mem_nil, or_false] at hr
    rcases hr with rfl | rfl
    · refine ⟨_, rfl, ?_⟩
      intro t ht
      cases ht
      unfold Instant.OnClock
      decide
    · refine ⟨_, rfl, ?_⟩
      intro t ht
      cases ht
  obtain ⟨records, attempts, hrecords, _, _, hend⟩ :=
    retry_visits_each_skipped_row_once { pageSize := 1 } .empty beforeRetry leftovers
      (by simp [StoreTables.Holds, Database.rows, Database.table?, Database.sameName,
        StoreTables.mapping, beforeRetry, Session.oneOrder])
      ⟨by decide, by decide⟩ hdated (by decide) (by decide)
  have hlisting : (Row.sorted (leftovers.filter Row.isSkipped)).mapM Store.read =
      .ok [.skipped "a" none "no listener"] := by decide +kernel
  have hreport : (((migrator { pageSize := 1 } .empty).run .retrySkipped).run beforeRetry).1 =
      .ok { mode := .retrySkipped, fetched := 1, retried := 1, jobsActivated := 1 } := by
    decide +kernel
  rcases hrun : ((migrator { pageSize := 1 } .empty).run .retrySkipped).run beforeRetry with ⟨r, s'⟩
  rw [hrun] at hend hreport
  simp only at hreport
  subst hreport
  obtain ⟨_, hattempts, hrevisited⟩ := hend
  rw [← Except.ok.inj (hlisting.symm.trans hrecords)] at hattempts
  obtain ⟨a, rfl, hrecord⟩ := List.map_eq_singleton_iff.1 hattempts
  exact ⟨a, s', rfl, hrecord, hrevisited⟩

end Trial
end ProcessMigration
