import Mathlib.Data.List.Perm.Subperm
import ProcessMigration.Proofs.Failures
import ProcessMigration.Proofs.Ledger
import ProcessMigration.Proofs.Ownership
import ProcessMigration.Proofs.RowOrder
import ProcessMigration.Proofs.StartedInstances

/-!
# Rows and instances correspond

An instance is started first, and then its key is written down. What can come between the two is a
write that is lost, and nothing else: at no time does the mapping store itself reject a write.

* `Ledger.Balanced`: every key in a row is that of an instance that was started for the row, each
  started instance has one row at most, and exactly one if no write was lost;
* `Trial.run_balanced`: a run of any mode keeps the balance, however it ends; in a retry pass the
  records of a page are of different rows, and all of them are still skipped when their turn comes;
* `Series.rows_and_instances_correspond` sums it up over all series of runs.
-/

namespace ProcessMigration

open ProcessMigration.Action (Triple Fails ReadOnly)

/-! ## Keys of rows -/

namespace Store

variable {rows : List Row}

/-- The target keys of rows. -/
def keysOf (rows : List Row) : List Int := rows.filterMap (·.targetKey)

/-- A row that is flipped brings one key more. -/
theorem keysOf_flippedRows (hlaw : Lawful rows) {id : String}
    (hskipped : ∃ r ∈ rows, r.legacyId = id ∧ r.isSkipped = true) (key : Int) :
    (keysOf (flippedRows id key rows)).Perm (keysOf rows ++ [key]) := by
  induction rows with
  | nil =>
    obtain ⟨r, hr, _⟩ := hskipped
    cases hr
  | cons r rest ih =>
    obtain ⟨hids, houtcome⟩ := hlaw
    rw [List.map_cons, List.nodup_cons] at hids
    have hrest : Lawful rest := ⟨hids.2, fun r' hr' => houtcome r' (List.mem_cons_of_mem r hr')⟩
    by_cases hflips : flips id r = true
    · obtain ⟨rfl, hskip⟩ := flips_iff.1 hflips
      -- the other rows are of other ids
      have hkeep : flippedRows r.legacyId key rest = rest :=
        flippedRows_of_absent (fun r' hr' hid => hids.1 (List.mem_map.2 ⟨r', hr', hid⟩)) key
      have hnone : r.targetKey = none := by
        have hmigrated := isMigrated_of_hasOneOutcome (houtcome r List.mem_cons_self)
        rw [hskip] at hmigrated
        unfold Row.isMigrated at hmigrated
        simpa using hmigrated
      have hhead : flippedRows r.legacyId key (r :: rest) = flipped key r :: rest := by
        show (if flips r.legacyId r then flipped key r else r) :: flippedRows _ key rest = _
        rw [if_pos hflips, hkeep]
      have hnow : keysOf (flippedRows r.legacyId key (r :: rest)) = key :: keysOf rest := by
        rw [hhead]
        exact List.filterMap_cons_some rfl
      have hbefore : keysOf (r :: rest) = keysOf rest := List.filterMap_cons_none hnone
      rw [hnow, hbefore]
      exact (List.perm_append_singleton key _).symm
    · have hskipped' : ∃ r' ∈ rest, r'.legacyId = id ∧ r'.isSkipped = true := by
        obtain ⟨r', hr', hrow⟩ := hskipped
        rcases List.mem_cons.1 hr' with rfl | hr'
        · exact absurd (flips_iff.2 hrow) hflips
        · exact ⟨r', hr', hrow⟩
      have hhead : flippedRows id key (r :: rest) = r :: flippedRows id key rest := by
        show (if flips id r then flipped key r else r) :: flippedRows id key rest = _
        rw [if_neg hflips]
      have hperm := ih hrest hskipped'
      rw [hhead]
      unfold keysOf at hperm ⊢
      rw [List.filterMap_cons, List.filterMap_cons]
      split
      · exact hperm
      · exact hperm.cons _

/-- A skipped row of another id is still there, and skipped, after a flip. -/
theorem skipped_flippedRows {id id' : String} (hne : id' ≠ id)
    (h : ∃ r ∈ rows, r.legacyId = id' ∧ r.isSkipped = true) (key : Int) :
    ∃ r ∈ flippedRows id key rows, r.legacyId = id' ∧ r.isSkipped = true := by
  obtain ⟨r, hr, rfl, hskipped⟩ := h
  exact ⟨r, List.mem_map.2 ⟨r, hr, if_neg fun hflips => hne (flips_iff.1 hflips).1⟩, rfl, hskipped⟩

end Store

/-! ## Balance -/

namespace Ledger

/-- Rows and started instances correspond. -/
structure Balanced (rows : List Row) (l : Ledger) : Prop where
  holds : l.tables.Holds rows l.database
  lawful : Store.Lawful rows
  /-- A key in a row is that of an instance that was started for the row. -/
  carries : ∀ id key, Store.Maps rows id key → ∃ c ∈ l.started, c.2.instanceKey = key ∧
    c.1.vars.get? legacyIdVariable = some (.string id)
  /-- A started instance has one row at most. -/
  recorded : (Store.keysOf rows).Subperm (l.started.map (·.2.instanceKey))
  /-- If no write was lost, each started instance has a row. -/
  complete : l.lostWrites = 0 → (Store.keysOf rows).Perm (l.started.map (·.2.instanceKey))
  accepted : l.rejected = []

variable {rows rows' : List Row} {l l' : Ledger}

/-- Counts are not a matter of balance. -/
theorem Balanced.withTally (h : l.Balanced rows) (tally : Tally) :
    ({ l with tally } : Ledger).Balanced rows :=
  ⟨h.holds, h.lawful, h.carries, h.recorded, h.complete, h.accepted⟩

/-- A run that breaks off leaves the balance. -/
theorem Balanced.halts (h : l.Balanced rows) (hhalts : l.Halts l') : l'.Balanced rows := by
  obtain ⟨tally, lost, unrecorded, rfl, hlost⟩ := hhalts
  obtain ⟨hrows, hlaw, hcarries, hrecorded, hcomplete, haccepted⟩ := h
  have hmore : (l.started.map (·.2.instanceKey)).Sublist
      ((l.started ++ unrecorded).map (·.2.instanceKey)) :=
    (List.sublist_append_left _ _).map _
  constructor
  case holds => exact hrows
  case lawful => exact hlaw
  case carries =>
    intro id key hmaps
    obtain ⟨c, hc, hkey⟩ := hcarries id key hmaps
    exact ⟨c, List.mem_append_left _ hc, hkey⟩
  case recorded => exact hrecorded.trans hmore.subperm
  case complete =>
    intro hnone
    have hzero : l.lostWrites + lost = 0 := hnone
    show (Store.keysOf rows).Perm ((l.started ++ unrecorded).map (·.2.instanceKey))
    rw [hlost (by omega), List.append_nil]
    exact hcomplete (by omega)
  case accepted => exact haccepted

/-- An instance was started, and the rows have its key for its id. -/
theorem Balanced.gain (h : l.Balanced rows) {id : String} {request : CreateRequest}
    {handle : InstanceHandle} {database : Database} {tally : Tally}
    (hid : request.vars.get? legacyIdVariable = some (.string id))
    (hrows : l.tables.Holds rows' database) (hlaw : Store.Lawful rows')
    (hkeys : (Store.keysOf rows').Perm (Store.keysOf rows ++ [handle.instanceKey]))
    (hmaps : ∀ id' key', Store.Maps rows' id' key' →
      Store.Maps rows id' key' ∨ (id' = id ∧ key' = handle.instanceKey)) :
    ({ l with database, started := l.started ++ [(request, handle)], tally } : Ledger).Balanced
      rows' := by
  obtain ⟨_, _, hcarries, hrecorded, hcomplete, haccepted⟩ := h
  have hall : (l.started ++ [(request, handle)]).map (·.2.instanceKey) =
      l.started.map (·.2.instanceKey) ++ [handle.instanceKey] := by
    rw [List.map_append]
    rfl
  constructor
  case holds => exact hrows
  case lawful => exact hlaw
  case carries =>
    intro id' key' hmaps'
    rcases hmaps id' key' hmaps' with hold | ⟨rfl, rfl⟩
    · obtain ⟨c, hc, hkey⟩ := hcarries id' key' hold
      exact ⟨c, List.mem_append_left _ hc, hkey⟩
    · exact ⟨(request, handle), List.mem_append_right _ List.mem_cons_self, rfl, hid⟩
  case recorded =>
    show (Store.keysOf rows').Subperm ((l.started ++ [(request, handle)]).map (·.2.instanceKey))
    rw [hall]
    exact hkeys.subperm.trans ((List.subperm_append_right _).2 hrecorded)
  case complete =>
    intro hnone
    show (Store.keysOf rows').Perm ((l.started ++ [(request, handle)]).map (·.2.instanceKey))
    rw [hall]
    exact hkeys.trans ((hcomplete hnone).append_right _)
  case accepted => exact haccepted

end Ledger

/-! ## Runs -/

namespace Trial

variable {settings : MigrationSettings} {pipeline : Pipeline} {w : Workspace} {rows : List Row}
  {l l' : Ledger}

/-- One more instance has been looked at. -/
theorem balanced_of_migrates (h : l.Balanced rows) {i : SourceInstance}
    (hmigrates : Migrates w settings pipeline i rows l l') : ∃ rows', l'.Balanced rows' := by
  cases hmigrates with
  | mapped tally => exact ⟨rows, h.withTally tally⟩
  | migrated prepared handle database tally hprepare hnew hrows =>
    have hid := (Workspace.fits_of_prepare hprepare).carriesId
    refine ⟨_, h.gain hid hrows (h.lawful.append rfl hnew) ?_ ?_⟩
    · unfold Store.keysOf
      rw [List.filterMap_append]
      exact List.Perm.refl _
    · intro id' key' hmaps
      rcases hmaps.of_append with hold | ⟨rfl, hkey⟩
      · exact .inl hold
      · exact .inr ⟨rfl, (Option.some.inj hkey).symm⟩
  | skipped reason database tally hnew hrows =>
    have hsame : Store.keysOf (rows ++ [.ofRecord (.skipped i.id i.startTime reason)]) =
        Store.keysOf rows := by
      unfold Store.keysOf
      rw [List.filterMap_append]
      exact List.append_nil _
    obtain ⟨_, hlaw, hcarries, hrecorded, hcomplete, haccepted⟩ := h
    -- the new row has no key, so the keys are those that were there
    refine ⟨_, hrows, hlaw.append rfl hnew, ?_, ?_, ?_, haccepted⟩
    · intro id' key' hmaps
      rcases hmaps.of_append with hold | ⟨_, hkey⟩
      · exact hcarries id' key' hold
      · cases hkey
    · rw [hsame]
      exact hrecorded
    · rw [hsame]
      exact hcomplete

/-- One more record has been tried again; the other skipped rows are still skipped. -/
theorem balanced_of_retries (h : l.Balanced rows) {id : String} {carried : Bool}
    (hskipped : ∃ r ∈ rows, r.legacyId = id ∧ r.isSkipped = true)
    (hretries : Retries w settings pipeline id rows l carried l') :
    ∃ rows', l'.Balanced rows' ∧ ∀ id' ≠ id, (∃ r ∈ rows, r.legacyId = id' ∧ r.isSkipped = true) →
      ∃ r ∈ rows', r.legacyId = id' ∧ r.isSkipped = true := by
  cases hretries with
  | carried prepared handle database hprepares hflipped =>
    obtain ⟨i, hfound, hprepare⟩ := hprepares
    obtain ⟨_, rfl⟩ := SnapshotSource.mem_of_find? hfound
    have hid := (Workspace.fits_of_prepare hprepare).carriesId
    refine ⟨_, h.gain hid hflipped (h.lawful.flippedRows _ _) ?_ ?_, ?_⟩
    · exact Store.keysOf_flippedRows h.lawful hskipped handle.instanceKey
    · intro id' key' hmaps
      exact hmaps.of_flippedRows
    · intro id' hne hskipped'
      exact Store.skipped_flippedRows hne hskipped' handle.instanceKey
  | vanished hgone => exact ⟨rows, h.withTally _, fun _ _ hskipped' => hskipped'⟩
  | stillSkipped i reason hfound hskip =>
    exact ⟨rows, h.withTally _, fun _ _ hskipped' => hskipped'⟩

/-- A run over this workspace whose ledger is balanced. -/
def IsBalanced (w : Workspace) (s : RunState Trial) : Prop :=
  s.ledger.Of w ∧ ∃ rows, s.ledger.Balanced rows

theorem isBalanced_of_halts (hw : l.Of w) (h : l.Balanced rows) {s : RunState Trial}
    (hhalts : l.Halts s.ledger) : IsBalanced w s := by
  refine ⟨?_, rows, h.halts hhalts⟩
  obtain ⟨tally, lost, unrecorded, hledger, _⟩ := hhalts
  rw [hledger]
  exact ⟨hw.source, hw.definitions⟩

/-- What leaves the ledger alone leaves the balance alone. -/
theorem quiet_balanced {α : Type} {x : Run Trial α}
    (hx : ∀ l, l.Of w → Triple (At l) x (fun _ => At l) (At l)) :
    Triple (IsBalanced w) x (fun _ => IsBalanced w) (IsBalanced w) := by
  apply Triple.of_state
  intro s₀ hs₀
  have hsame : ∀ s, At s₀.ledger s → IsBalanced w s := by
    intro s hs
    unfold IsBalanced
    rw [show s.ledger = s₀.ledger from hs]
    exact hs₀
  refine (hx s₀.ledger hs₀.1).conseq ?_ (fun _ s hs => hsame s hs) hsame
  intro s hs
  rw [hs]
  rfl

theorem ask_balanced {α : Type} {op : EngineOperation} (x : Action Workspace ConnectorError α)
    (hx : ReadOnly x) :
    Triple (IsBalanced w) (Run.engine (ask op x)) (fun _ => IsBalanced w) (IsBalanced w) :=
  quiet_balanced fun _ _ => (asks_ledger x hx).post fun _ _ hs => hs.1

theorem askStore_balanced {α : Type} (x : StoreTables → StoreAction α) (hx : ∀ t, ReadOnly (x t)) :
    Triple (IsBalanced w) (Run.store (askStore (Workspace.onStore x))) (fun _ => IsBalanced w)
      (IsBalanced w) :=
  quiet_balanced fun _ _ => (asksStore_ledger x hx).post fun _ _ hs => hs.1

theorem keeps_balanced :
    (migrator settings pipeline).Keeps (IsBalanced w) (IsBalanced w) (IsBalanced w) := by
  constructor
  case report => exact fun _ _ ⟨hw, rows, hs⟩ => ⟨⟨hw.source, hw.definitions⟩, rows, hs.withTally _⟩
  case output => exact fun _ _ hs => hs
  case reset => exact fun _ _ ⟨hw, rows, hs⟩ => ⟨⟨hw.source, hw.definitions⟩, rows, hs.withTally _⟩
  case countSkipped =>
    exact askStore_balanced (fun t => Store.countSkipped t .processInstance)
      fun _ => Store.countSkipped_readOnly _
  case skipped =>
    intro request
    exact askStore_balanced (fun t => Store.skipped t .processInstance request.offset request.limit)
      fun _ => Store.skipped_readOnly _ _ _
  case drain => exact quiet_balanced fun _ hw => drain_ledger hw
  case ended => exact fun _ hs => hs
  case failed => exact fun _ hs => hs

theorem migratePass_balanced :
    Triple (IsBalanced w) (migrator settings pipeline).migratePass (fun _ => IsBalanced w)
      (IsBalanced w) := by
  refine keeps_balanced.migratePass (F := fun _ => True) ?_ ?_ ?_ ?_
  · exact askStore_balanced (fun t => Store.latest? t .processInstance)
      fun _ => Store.latest?_readOnly _
  · exact ask_balanced Workspace.sourceEngine.count (Workspace.onSource_readOnly _)
  · intro after limit
    exact (ask_balanced (Workspace.sourceEngine.listAfter after limit)
      (Workspace.onSource_readOnly _)).post fun _ _ hs => ⟨hs, fun _ _ => trivial⟩
  · intro i _
    apply Triple.of_state
    rintro s₀ ⟨hw, rows, hs₀⟩
    refine (migrateInstance_ledger hw hs₀.holds i).conseq ?_ ?_ ?_
    · rintro s rfl
      rfl
    · intro _ s hmigrates
      refine ⟨?_, balanced_of_migrates hs₀ hmigrates⟩
      generalize s.ledger = l' at hmigrates
      cases hmigrates <;> exact ⟨hw.source, hw.definitions⟩
    · intro s hhalts
      exact isBalanced_of_halts hw hs₀ hhalts

/-- A balanced run in which the records of a page are of different rows that are still skipped. -/
def OnSkipped (w : Workspace) (page : List MappingRecord) (s : RunState Trial) : Prop :=
  s.ledger.Of w ∧ (page.map (·.legacyId)).Nodup ∧ ∃ rows, s.ledger.Balanced rows ∧
    ∀ record ∈ page, ∃ r ∈ rows, r.legacyId = record.legacyId ∧ r.isSkipped = true

theorem retryPass_balanced :
    Triple (IsBalanced w) (migrator settings pipeline).retryPass (fun _ => IsBalanced w)
      (IsBalanced w) := by
  refine keeps_balanced.retryPass (M := OnSkipped w) ?_ ?_ ?_
  · -- a page is one of skipped rows with different ids
    intro request
    apply Triple.of_state
    rintro s₀ ⟨hw, rows, hs₀⟩
    have hpage : Triple (At s₀.ledger) ((migrator settings pipeline).skippedPage request)
        (fun page s => At s₀.ledger s ∧
          ((Store.skipped s₀.ledger.tables .processInstance request.offset request.limit).run
            s₀.ledger.database).1 = .ok page)
        (At s₀.ledger) :=
      asksStore_ledger (fun t => Store.skipped t .processInstance request.offset request.limit)
        fun _ => Store.skipped_readOnly _ _ _
    refine hpage.conseq ?_ ?_ ?_
    · rintro s rfl
      rfl
    · intro page s ⟨hs, hanswer⟩
      obtain ⟨hnodup, hskipped⟩ := Store.skipped_rows hs₀.holds hs₀.lawful.ids hanswer
      unfold OnSkipped
      rw [show s.ledger = s₀.ledger from hs]
      exact ⟨hw, hnodup, rows, hs₀, hskipped⟩
    · intro s hs
      unfold IsBalanced
      rw [show s.ledger = s₀.ledger from hs]
      exact ⟨hw, rows, hs₀⟩
  · -- a record flips its own row at most, so that those behind it on the page are still skipped
    intro record rest
    apply Triple.of_state
    rintro s₀ ⟨hw, hnodup, rows, hs₀, hskipped⟩
    rw [List.map_cons, List.nodup_cons] at hnodup
    have hthere := hskipped record List.mem_cons_self
    refine (retryRecord_ledger hw hs₀.holds record hthere).conseq ?_ ?_ ?_
    · rintro s rfl
      rfl
    · intro carried s hretries
      obtain ⟨rows', hbalanced, hothers⟩ := balanced_of_retries hs₀ hthere hretries
      refine ⟨?_, hnodup.2, rows', hbalanced, ?_⟩
      · generalize s.ledger = l' at hretries
        cases hretries <;> exact ⟨hw.source, hw.definitions⟩
      · intro record' hrecord'
        refine hothers record'.legacyId ?_ (hskipped record' (List.mem_cons_of_mem _ hrecord'))
        intro heq
        exact hnodup.1 (heq ▸ List.mem_map_of_mem hrecord')
    · intro s hhalts
      exact isBalanced_of_halts hw hs₀ hhalts
  · intro s ⟨hw, _, rows, hs, _⟩
    exact ⟨hw, rows, hs⟩

/-- A run keeps the balance, whatever its mode and however it ends. -/
theorem run_balanced (mode : Mode) :
    Triple (IsBalanced w) ((migrator settings pipeline).run mode) (fun _ => IsBalanced w)
      (IsBalanced w) := by
  cases mode with
  | migrate => exact keeps_balanced.run migratePass_balanced
  | retrySkipped => exact keeps_balanced.run retryPass_balanced
  | listSkipped => exact keeps_balanced.runListing

end Trial

/-! ## Series of runs -/

namespace Series

/-- What a series has come to. -/
structure InStep (rows : List Row) (es : List JournalEntry) (s : Series) : Prop where
  journaled : s.state.Journaled es
  balanced : ({ world := s.state } : RunState Trial).ledger.Balanced rows

/-- At any time the journal and the rows have the instances that were started. -/
def IsInStep (s : Series) : Prop := ∃ rows es, s.InStep rows es

variable {s : Series}

theorem start_inStep {w : Workspace} {definitions : List Definition}
    (hfresh : w.target = ⟨definitions, .absent, .start definitions⟩)
    (hempty : w.tables.Holds [] w.database) : (start w).IsInStep := by
  refine ⟨[], [], ⟨?_, .nil, .nil⟩, ?_⟩
  · show w.target.Wrote []
    rw [hfresh]
    exact TargetEngine.wrote_start definitions
  · refine ⟨hempty, Store.lawful_nil, ?_, List.Subperm.refl _, fun _ => .refl _, rfl⟩
    rintro id key ⟨r, hr, _⟩
    cases hr

/-- A run keeps step, and the mapping store rejects no write of it. -/
theorem perform_inStep (h : s.IsInStep) (mode : Mode) (settings : MigrationSettings)
    (pipeline : Pipeline) (coming : List (Option Failure)) :
    let r := (s.perform mode settings pipeline coming).2
    (Series.mk r.world r.pending).IsInStep ∧ r.world.rejected = [] := by
  obtain ⟨rows, es, hjournaled, hbalanced⟩ := h
  let s₀ : RunState Trial := { world := { s.state with coming }, pending := s.pending }
  have hjournaled₀ : Trial.RunJournaled s₀ := ⟨es, hjournaled.of_eq rfl rfl⟩
  have hbalanced₀ : Trial.IsBalanced s.state.world s₀ :=
    ⟨⟨rfl, rfl⟩, rows, hbalanced.withTally _⟩
  have hj : Trial.RunJournaled (s.perform mode settings pipeline coming).2 :=
    (Trial.run_journaled mode).state hjournaled₀
  have hb : Trial.IsBalanced s.state.world (s.perform mode settings pipeline coming).2 :=
    (Trial.run_balanced mode).state hbalanced₀
  obtain ⟨es', hes'⟩ := hj
  obtain ⟨_, rows', hrows'⟩ := hb
  exact ⟨⟨rows', es', hes', hrows'.withTally _⟩, hrows'.accepted⟩

/-- A new process finds the journal and the rows as they were. -/
theorem restarted_inStep (h : s.IsInStep) (definitions : List Definition) (path : String) :
    (s.restarted definitions path).IsInStep := by
  obtain ⟨rows, es, hjournaled, hbalanced⟩ := h
  unfold restarted
  dsimp only
  split
  · next target hopen =>
    obtain ⟨hwrote, _⟩ := TargetEngine.open_wrote hjournaled.wrote hopen
    have hholds := (Store.open_keeps s.state.world.tables _ rows).state hbalanced.holds
    refine ⟨rows, es, ⟨hwrote, hjournaled.answers, hjournaled.keys⟩, ?_⟩
    exact ⟨hholds, hbalanced.lawful, hbalanced.carries, hbalanced.recorded, hbalanced.complete,
      hbalanced.accepted⟩
  · exact ⟨rows, es, hjournaled, hbalanced⟩

theorem step_inStep (h : s.IsInStep) (e : SeriesStep) : (s.step e).IsInStep := by
  cases e with
  | run mode settings pipeline coming => exact (perform_inStep h mode settings pipeline coming).1
  | rebuild =>
    obtain ⟨rows, es, hjournaled, hbalanced⟩ := h
    exact ⟨rows, es, hjournaled, hbalanced⟩
  | restart definitions path => exact restarted_inStep h definitions path

theorem after_inStep (h : s.IsInStep) (steps : List SeriesStep) : (s.after steps).IsInStep := by
  induction steps generalizing s with
  | nil => exact h
  | cons e rest ih => exact ih (step_inStep h e)

/-- In a series of runs that starts without rows and without a journal, the runs may fail at any
call. Then every key in a row is that of an instance in the journal that carries the id of the row,
and no key is in two rows. If no write was lost, then the journal has no other instances, and every
instance that was started has its row. No run fails because an id has a row already, or has no skipped
one. -/
theorem rows_and_instances_correspond (w : Workspace) (definitions : List Definition)
    (steps : List SeriesStep) (hfresh : w.target = ⟨definitions, .absent, .start definitions⟩)
    (hempty : w.tables.Holds [] w.database) :
    let s := (start w).after steps
    ∃ rows es, s.state.world.tables.Holds rows s.state.world.database ∧
      s.state.world.target.journal.Holds es ∧
      (∀ r ∈ rows, ∀ key, r.targetKey = some key → ∃ e ∈ JournalEntry.startedIn es,
        e.instanceKey = key ∧ e.vars.get? legacyIdVariable = some (.string r.legacyId)) ∧
      (Store.keysOf rows).Nodup ∧
      (s.state.lostWrites = 0 →
        (∀ c ∈ s.state.started, c.2.instanceKey ∈ Store.keysOf rows) ∧
          ((JournalEntry.startedIn es).map (·.instanceKey)).Perm (Store.keysOf rows)) ∧
      ∀ mode settings pipeline coming id,
        (s.perform mode settings pipeline coming).1 ≠ .error (.store (.duplicateKey id)) ∧
          (s.perform mode settings pipeline coming).1 ≠ .error (.store (.notSkipped id)) := by
  intro s
  have hinStep : s.IsInStep := after_inStep (start_inStep hfresh hempty) steps
  obtain ⟨rows, es, hjournaled, hbalanced⟩ := id hinStep
  -- the answers that came back are the entries in the journal
  have hkeys : s.state.started.map (·.2.instanceKey) =
      (JournalEntry.startedIn es).map (·.instanceKey) := by
    have hsame := hjournaled.answers.imp fun _ _ h => h.1.symm
    have hmap := List.forall₂_map_left_iff.2 (List.forall₂_map_right_iff.2 hsame)
    rw [List.forall₂_eq_eq_eq] at hmap
    exact hmap
  have hnodup : (s.state.started.map (·.2.instanceKey)).Nodup := by
    rw [hkeys]
    exact hjournaled.keys
  refine ⟨rows, es, hbalanced.holds, hjournaled.wrote.recorded.journal, ?_, ?_, ?_, ?_⟩
  · intro r hr key hkey
    obtain ⟨c, hc, hckey, hid⟩ := hbalanced.carries r.legacyId key ⟨r, hr, rfl, hkey⟩
    obtain ⟨i, hi, rfl⟩ := List.mem_iff_getElem.1 hc
    have hlen := hjournaled.answers.length_eq
    have hanswer := hjournaled.answers.get hi (hlen ▸ hi)
    refine ⟨_, List.getElem_mem (hlen ▸ hi), hanswer.1.trans hckey, ?_⟩
    have hvars := hanswer.2
    rw [List.get_eq_getElem, List.get_eq_getElem] at hvars
    rw [hvars]
    exact hid
  · obtain ⟨keys, hperm, hsub⟩ := hbalanced.recorded
    exact hperm.nodup_iff.1 (hnodup.sublist hsub)
  · intro hlost
    have hperm := hbalanced.complete hlost
    constructor
    · intro c hc
      exact hperm.mem_iff.2 (List.mem_map_of_mem hc)
    · rw [← hkeys]
      exact hperm.symm
  · intro mode settings pipeline coming id
    obtain ⟨_, hrejected⟩ := perform_inStep hinStep mode settings pipeline coming
    -- a failure of the mapping store is one of its database, for no write was rejected
    have hdatabase : ∀ cause, (s.perform mode settings pipeline coming).1 = .error (.store cause) →
        ∃ cause', cause = .database cause' := by
      intro cause hrun
      have hfails : Fails ((Trial.migrator settings pipeline).run mode)
          (Run.Blames Trial.OrRejected) :=
        Migrator.run_fails Trial.recordStore_refuses mode
      rcases hfails.error hrun cause rfl with hcause | hcause
      · exact hcause
      · have hnone : (s.perform mode settings pipeline coming).2.world.rejected = [] := hrejected
        unfold perform at hnone
        rw [hnone] at hcause
        cases hcause
    constructor
    · intro hrun
      obtain ⟨cause, hcause⟩ := hdatabase _ hrun
      cases hcause
    · intro hrun
      obtain ⟨cause, hcause⟩ := hdatabase _ hrun
      cases hcause

/-- In a first run the journal takes no line when the order is to be started; a new process tries
again, and its run breaks off when the job is to be handed out. -/
def stumbling : List SeriesStep :=
  [.run .migrate {} .empty (List.replicate 8 none ++ [some (.jammed .isDirectory)]),
    .restart [Session.orderProcess] "journal",
    .run .migrate {} .empty (List.replicate 10 none ++ [some (.refused "connection lost")])]

/-- The order is started once, and its row has the one key that the journal has. -/
theorem stumbling_order_corresponds :
    let s := (start Session.oneOrder).after stumbling
    s.state.started.length = 1 ∧ ∃ rows es,
      s.state.world.tables.Holds rows s.state.world.database ∧
        s.state.world.target.journal.Holds es ∧
        (∀ c ∈ s.state.started, c.2.instanceKey ∈ Store.keysOf rows) ∧
        ((JournalEntry.startedIn es).map (·.instanceKey)).Perm (Store.keysOf rows) := by
  intro s
  obtain ⟨rows, es, hholds, hjournal, _, _, hcomplete, _⟩ :=
    rows_and_instances_correspond Session.oneOrder [Session.orderProcess] stumbling rfl
      Session.oneOrder_empty
  have hlost : s.state.lostWrites = 0 := by decide +kernel
  obtain ⟨hstarted, hperm⟩ := hcomplete hlost
  exact ⟨by decide +kernel, rows, es, hholds, hjournal, hstarted, hperm⟩

end Series
end ProcessMigration
