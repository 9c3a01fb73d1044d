import Mathlib.Data.List.Induction
import ProcessMigration.Proofs.KeyOrder

/-!
# The keys of a journal

A journal outlives the engine that writes it. The next session opens it anew, and what is left of
the keys is told by the journal and the definitions alone: keys that were drawn in vain come back,
keys that stand in an entry or belong to a definition do not.

* `KeyAllocator.JustAbove`: an allocator begins behind the greatest key that it was told of;
* `JournalEntry.KeysInOrder`: the keys of the entries ascend and are no others' keys;
* `TargetEngine.Avoids.perform` and `TargetEngine.InOrderOn.afterSessions`: every call keeps that,
  and so does every session;
* `TargetEngine.RunsOut`: what becomes of creations for which too few keys are left;
* `TargetEngine.keys_are_never_reused`: all of it, for every list of sessions.
-/

namespace ProcessMigration

open ProcessMigration.Action (Triple)

/-! ## What is left after opening -/

/-- The last key of the journal's partition. -/
def Key.last : Int := Key.base journalPartition + (Key.span - 1)

namespace KeyAllocator

variable {a : KeyAllocator} {keys : List Int}

/-- The first key that is left lies just above the greatest of these keys in the journal's
partition, or at the beginning of the partition if none of them is in it. -/
structure JustAbove (a : KeyAllocator) (keys : List Int) : Prop where
  above : ∀ key ∈ keys, Key.partition key = journalPartition → Key.local key < a.nextLocal
  least : a.nextLocal = 1 ∨
    ∃ key ∈ keys, Key.partition key = journalPartition ∧ a.nextLocal = Key.local key + 1

theorem JustAbove.resumeAfter (h : a.JustAbove keys) (ha : a.partition = journalPartition)
    (key : Int) : (a.resumeAfter key).JustAbove (keys ++ [key]) := by
  unfold KeyAllocator.resumeAfter
  split
  · next htold =>
    refine ⟨?_, .inr ⟨key, by simp, htold.1.trans ha, rfl⟩⟩
    intro key' hkey' hpartition
    show Key.local key' < Key.local key + 1
    rcases List.mem_append.1 hkey' with hold | hnew
    · have habove := h.above key' hold hpartition
      omega
    · rw [List.mem_singleton.1 hnew]
      omega
  · next hnot =>
    constructor
    · intro key' hkey' hpartition
      rcases List.mem_append.1 hkey' with hold | hnew
      · exact h.above key' hold hpartition
      · rw [List.mem_singleton.1 hnew] at hpartition ⊢
        exact Int.not_le.1 fun hle => hnot ⟨hpartition.trans ha.symm, hle⟩
    · refine h.least.imp_right ?_
      rintro ⟨key', hkey', hleast⟩
      exact ⟨key', List.mem_append_left _ hkey', hleast⟩

theorem justAbove_resumeAfterAll (keys : List Int) :
    ((forPartition journalPartition).resumeAfterAll keys).JustAbove keys := by
  -- the greatest key may come at any time, so the list is taken apart at its end
  induction keys using List.reverseRecOn with
  | nil => exact ⟨fun _ hkey => (by cases hkey), .inl rfl⟩
  | append_singleton keys key ih =>
    have hpartition : ((forPartition journalPartition).resumeAfterAll keys).partition =
        journalPartition :=
      (Within.resumeAfterAll (a := forPartition journalPartition)
        ⟨rfl, by decide, by decide⟩ keys).partition
    have hlast : (forPartition journalPartition).resumeAfterAll (keys ++ [key]) =
        ((forPartition journalPartition).resumeAfterAll keys).resumeAfter key :=
      List.foldl_append ..
    rw [hlast]
    exact ih.resumeAfter hpartition key

/-- The partition is used up as soon as its last key is known. -/
theorem JustAbove.left_eq_zero_iff (h : a.JustAbove keys) : a.left = 0 ↔ Key.last ∈ keys := by
  have hlast : Key.partition Key.last = journalPartition ∧ Key.local Key.last = Key.span - 1 :=
    journal_key ⟨by decide, by decide⟩
  unfold left
  constructor
  · intro hleft
    rcases h.least with hone | ⟨key, hkey, hpartition, hnext⟩
    · rw [hone] at hleft
      exact absurd hleft (by decide)
    · have hbounds := (Key.isLocal_local key).last
      have hsame : key = Key.last := by
        obtain ⟨hpartition', hlocal'⟩ := hlast
        unfold Key.partition Key.local Key.span journalPartition at *
        omega
      exact hsame ▸ hkey
  · intro hmem
    have habove := h.above Key.last hmem hlast.1
    rw [hlast.2] at habove
    omega

end KeyAllocator

/-! ## Keys in order -/

/-- The keys of the entries ascend, belong to the journal's partition, and are none of the foreign
ones. -/
structure JournalEntry.KeysInOrder (foreign : List Int) (es : List JournalEntry) : Prop where
  ascending : (es.flatMap JournalEntry.keys).Pairwise (· < ·)
  partition : ∀ key ∈ es.flatMap JournalEntry.keys, Key.partition key = journalPartition
  notForeign : ∀ key ∈ es.flatMap JournalEntry.keys, key ∉ foreign

namespace TargetEngine

variable {t t' : TargetEngine} {es : List JournalEntry} {foreign : List Int}
  {definitions : List Definition} {path : String}

/-- The engine has entries with keys in order, and will not draw a foreign key. -/
structure Avoids (foreign : List Int) (es : List JournalEntry) (t : TargetEngine) : Prop where
  wrote : t.Wrote es
  inOrder : JournalEntry.KeysInOrder foreign es
  passed : ∀ key ∈ foreign, Key.partition key = journalPartition → t.state.keys.Passed key

namespace Avoids

/-- An entry without keys changes nothing. -/
theorem silent (h : Avoids foreign es t) {e : JournalEntry} (he : e.keys = [])
    (hwrote : t'.Wrote (es ++ [e])) (hkeys : t'.state.keys = t.state.keys) :
    Avoids foreign (es ++ [e]) t' := by
  have hsame : (es ++ [e]).flatMap JournalEntry.keys = es.flatMap JournalEntry.keys := by
    rw [List.flatMap_append, List.flatMap_singleton, he, List.append_nil]
  refine ⟨hwrote, ?_, fun key hkey hpartition => hkeys ▸ h.passed key hkey hpartition⟩
  constructor
  · exact hsame ▸ h.inOrder.ascending
  · exact hsame ▸ h.inOrder.partition
  · exact hsame ▸ h.inOrder.notForeign

theorem idle (h : Avoids foreign es t) (hidle : Idle t t') : Avoids foreign es t' := by
  have hwrote := hidle.wrote h.wrote
  obtain ⟨a, keys, hdraws, rfl⟩ := hidle
  exact ⟨hwrote, h.inOrder, fun key hkey hpartition =>
    hdraws.keepsPassed (h.passed key hkey hpartition)⟩

/-- An entry with the next keys stands behind all keys before it. -/
theorem create (h : Avoids foreign es t) {request : CreateRequest} {d : Definition}
    (hroom : d.keysNeeded ≤ t.state.keys.left)
    (hwrote : t'.Wrote (es ++ [.create (request.entry d t.state.keys)]))
    (hstate : t'.state = (t.state.withKeys (t.state.keys.advance d.keysNeeded)).create
      (request.entry d t.state.keys)) :
    Avoids foreign (es ++ [.create (request.entry d t.state.keys)]) t' := by
  have hwithin := h.wrote.state.keys
  have hpassed := h.wrote.recorded.passed
  have hdraws := KeyAllocator.draws_advance hroom
  have hfresh := hdraws.fresh hwithin
  have hpartition : ∀ key ∈ KeyAllocator.draws d.keysNeeded t.state.keys,
      Key.partition key = journalPartition := by
    intro key hkey
    exact (hdraws.partition_eq hwithin hkey).trans hwithin.partition
  have hkeys : (es ++ [JournalEntry.create (request.entry d t.state.keys)]).flatMap
      JournalEntry.keys =
      es.flatMap JournalEntry.keys ++ KeyAllocator.draws d.keysNeeded t.state.keys := by
    rw [List.flatMap_append, List.flatMap_singleton]
    exact congrArg _ (request.keysOf_entry hroom)
  refine ⟨hwrote, ⟨?_, ?_, ?_⟩, ?_⟩
  · rw [hkeys]
    refine List.pairwise_append.2
      ⟨h.inOrder.ascending, KeyAllocator.draws_in_order hwithin hroom, ?_⟩
    intro old hold new hnew
    exact (hpassed old hold).lt (hdraws.partition_eq hwithin hnew) (hfresh new hnew).1
  · intro key hkey
    rw [hkeys] at hkey
    exact (List.mem_append.1 hkey).elim (h.inOrder.partition key) (hpartition key)
  · intro key hkey
    rw [hkeys] at hkey
    rcases List.mem_append.1 hkey with hold | hnew
    · exact h.inOrder.notForeign key hold
    · intro hforeign
      exact (hfresh key hnew).1 (h.passed key hforeign (hpartition key hnew))
  · intro key hkey hkeyPartition
    have hdraws' : t.state.keys.Draws (t.state.keys.advance d.keysNeeded)
        (TargetState.keysOf (request.entry d t.state.keys)) := by
      rw [request.keysOf_entry hroom]
      exact hdraws
    rw [hstate, TargetState.create_eq h.wrote.state hdraws']
    exact hdraws.keepsPassed (h.passed key hkey hkeyPartition)

/-- Every call keeps the keys in order. -/
theorem perform (h : Avoids foreign es t) (c : TargetStep) :
    ∃ es', Avoids foreign es' (c.perform.run t).2 := by
  have hcall : Triple (fun t₀ => t₀ = t) c.call.perform (fun _ t' => ∃ es', Avoids foreign es' t')
      fun t' => ∃ es', Avoids foreign es' t' := by
    cases c.call with
    | create request =>
      unfold TargetCall.perform
      refine Triple.bind (M := fun _ t' => ∃ es', Avoids foreign es' t') ?_
        fun _ => Triple.pure fun _ ht => ht
      refine (createInstance_drawn h.wrote request).ends ?_ fun t' ht => ⟨es, h.idle ht⟩
      rintro _ t' ⟨d, _, hroom, hwrote, hstate⟩
      exact ⟨_, h.create hroom hwrote hstate⟩
    | modify key terminated activations =>
      refine (modifyInstance_wrote h.wrote ⟨key, terminated, activations⟩).ends
        ?_ fun t' ht => ⟨es, ht ▸ h⟩
      rintro _ t' ⟨hwrote, hstate, _⟩
      exact ⟨_, h.silent rfl hwrote (by rw [hstate]; rfl)⟩
    | activate jobType limit =>
      unfold TargetCall.perform
      refine Triple.bind (M := fun _ t' => ∃ es', Avoids foreign es' t') ?_
        fun _ => Triple.pure fun _ ht => ht
      refine (activateJobs_wrote h.wrote jobType limit).ends ?_ fun _ ht => ht.elim
      rintro jobs t' ⟨hwrote, _, hstate, _⟩
      refine ⟨es, hwrote, h.inOrder, ?_⟩
      intro key hkey hpartition
      rw [hstate]
      exact h.passed key hkey hpartition
  exact (TargetStep.perform_rule hcall fun t' ht => ⟨es, h.idle ht⟩).state rfl

theorem after (h : Avoids foreign es t) (steps : List TargetStep) :
    ∃ es', Avoids foreign es' (t.after steps) := by
  refine after_induction (I := fun t => ∃ es', Avoids foreign es' t) ⟨es, h⟩ ?_
  rintro c _ t ⟨es', h'⟩
  exact h'.perform c

end Avoids

/-! ## Sessions -/

theorem afterSessions_cons (path : String) (f : JournalFile) (s : TargetSession)
    (sessions : List TargetSession) :
    f.afterSessions path (s :: sessions) = (f.afterSession path s).afterSessions path sessions :=
  rfl

/-- A session on a journal that can be opened. -/
theorem afterSession_of_open {path : String} {f : JournalFile} {definitions : List Definition}
    {t : TargetEngine} (h : TargetEngine.open definitions path f = .ok t)
    (steps : List TargetStep) :
    f.afterSession path ⟨definitions, steps⟩ = (t.after steps).journal := by
  unfold JournalFile.afterSession
  rw [h]

/-- What the allocator of an engine that was just opened was told of. -/
theorem keys_of_open (h : t.Wrote es)
    (hopen : TargetEngine.open definitions path t.journal = .ok t') :
    t'.state.keys = (KeyAllocator.forPartition journalPartition).resumeAfterAll
      (definitions.map (·.key) ++ es.flatMap JournalEntry.keys) := by
  obtain ⟨es', hread, rfl⟩ := addAll_of_open h hopen
  rw [TargetState.keys_addAll, TargetState.keys_start, JournalEntry.keys_of_bare hread]
  exact (List.foldl_append ..).symm

/-- An engine that is opened anew passes the keys of its definitions. -/
theorem passed_of_open (h : t.Wrote es)
    (hopen : TargetEngine.open definitions path t.journal = .ok t') :
    ∀ key ∈ definitions.map (·.key), Key.partition key = journalPartition →
      t'.state.keys.Passed key := by
  intro key hkey hpartition
  rw [keys_of_open h hopen]
  exact KeyAllocator.passed_resumeAfterAll (List.mem_append_left _ hkey) hpartition

/-- An entry with the same line as one that is read back brings the same keys. -/
theorem keys_of_line_eq {e e' : JournalEntry} (hregular : e.Regular) (hfits : e.Fits)
    (hline : e'.line = e.line) : e'.keys = e.keys := by
  have hread : JournalEntry.read? e'.line = some e := by
    rw [hline, JournalEntry.read?_line hregular, if_pos hfits]
  rw [← e'.keys_bare, ← JournalEntry.bare_of_read? hread, e.keys_bare]

/-- The text of a journal tells which keys its entries bring, if they are read back. -/
theorem keys_of_holds {f : JournalFile} {es es' : List JournalEntry} (h : f.Holds es)
    (h' : f.Holds es') (hregular : ∀ e ∈ es, e.Regular) (hfits : ∀ e ∈ es, e.Fits) :
    es'.map JournalEntry.keys = es.map JournalEntry.keys := by
  obtain ⟨content, hcontent, hlines⟩ := h.lines
  obtain ⟨content', hcontent', hlines'⟩ := h'.lines
  obtain rfl : content = content' := Except.ok.inj (hcontent.symm.trans hcontent')
  have hsame : es'.map JournalEntry.line = es.map JournalEntry.line := hlines'.symm.trans hlines
  clear h h' hcontent hcontent' hlines hlines'
  induction es generalizing es' with
  | nil => rw [List.map_eq_nil_iff.1 hsame]
  | cons e es ih =>
    obtain ⟨e', rest, rfl, hline, hrest⟩ := List.map_eq_cons_iff.1 hsame
    rw [List.map_cons, List.map_cons,
      keys_of_line_eq (hregular e List.mem_cons_self) (hfits e List.mem_cons_self) hline]
    refine congrArg _ (ih ?_ ?_ hrest)
    · intro b hb
      exact hregular b (List.mem_cons_of_mem e hb)
    · intro b hb
      exact hfits b (List.mem_cons_of_mem e hb)

/-- Started instances are added whatever the state is. -/
theorem foldlM_apply_create (s : TargetState) (started : List StartedInstance) :
    (started.map JournalEntry.create).foldlM TargetState.apply s =
      .ok (s.addAll (started.map JournalEntry.create)) := by
  induction started generalizing s with
  | nil => rfl
  | cons e rest ih => exact ih (s.create e)

/-- The journal of some engine whose entries have keys in order. -/
def InOrderOn (foreign : List Int) (es : List JournalEntry) (f : JournalFile) : Prop :=
  JournalEntry.KeysInOrder foreign es ∧ ∃ t : TargetEngine, t.journal = f ∧ t.Wrote es

theorem Avoids.onJournal (h : Avoids foreign es t) : InOrderOn foreign es t.journal :=
  ⟨h.inOrder, t, rfl, h.wrote⟩

namespace InOrderOn

variable {f : JournalFile}

theorem absent (foreign : List Int) : InOrderOn foreign [] .absent :=
  ⟨⟨.nil, fun _ h => (by cases h), fun _ h => (by cases h)⟩, fresh [], rfl, wrote_start []⟩

theorem holds (h : InOrderOn foreign es f) : f.Holds es := by
  obtain ⟨_, t, rfl, hwrote⟩ := h
  exact hwrote.recorded.journal

theorem keys_of_open (h : InOrderOn foreign es f)
    (hopen : TargetEngine.open definitions path f = .ok t) :
    t.state.keys = (KeyAllocator.forPartition journalPartition).resumeAfterAll
      (definitions.map (·.key) ++ es.flatMap JournalEntry.keys) := by
  obtain ⟨_, t₀, rfl, hwrote⟩ := h
  exact TargetEngine.keys_of_open hwrote hopen

/-- An engine that is opened on the journal avoids the foreign keys among those of its
definitions. -/
theorem opened (h : InOrderOn foreign es f)
    (hopen : TargetEngine.open definitions path f = .ok t)
    (hforeign : ∀ key ∈ foreign, key ∈ definitions.map (·.key)) : Avoids foreign es t := by
  obtain ⟨hinOrder, t₀, rfl, hwrote⟩ := h
  obtain ⟨hwrote', -⟩ := open_wrote hwrote hopen
  exact ⟨hwrote', hinOrder, fun key hkey => passed_of_open hwrote hopen key (hforeign key hkey)⟩

theorem afterSession (h : InOrderOn foreign es f) (s : TargetSession)
    (hforeign : ∀ key ∈ foreign, key ∈ s.definitions.map (·.key)) :
    ∃ es', InOrderOn foreign es' (f.afterSession path s) := by
  unfold JournalFile.afterSession
  cases hopen : TargetEngine.open s.definitions path f with
  | error e => exact ⟨es, h⟩
  | ok t =>
    obtain ⟨es', h'⟩ := (h.opened hopen hforeign).after s.steps
    exact ⟨es', h'.onJournal⟩

/-- Every session keeps the keys in order. -/
theorem afterSessions (h : InOrderOn foreign es f) (path : String) (sessions : List TargetSession)
    (hforeign : ∀ s ∈ sessions, ∀ key ∈ foreign, key ∈ s.definitions.map (·.key)) :
    ∃ es', InOrderOn foreign es' (f.afterSessions path sessions) := by
  induction sessions generalizing f es with
  | nil => exact ⟨es, h⟩
  | cons s sessions ih =>
    obtain ⟨es', h'⟩ := h.afterSession s (hforeign s List.mem_cons_self)
    exact ih h' fun s' hs' => hforeign s' (List.mem_cons_of_mem s hs')

end InOrderOn

/-! ## Keys that run out -/

/-- What becomes of creations that need more keys than are left. -/
structure RunsOut (t : TargetEngine) : Prop where
  /-- These and no others fail for want of keys. -/
  fails : ∀ (request : CreateRequest) (d : Definition),
    t.definitions.find? (fun d => d.key == request.definitionKey) = some d →
      (((createInstance request).run t).1 = .error keysExhausted ↔
        t.state.keys.left < d.keysNeeded)
  /-- They append nothing, and no key is left then. -/
  refuses : ∀ (request : CreateRequest) (d : Definition) (jammed : Option FileError),
    t.definitions.find? (fun d => d.key == request.definitionKey) = some d →
      t.state.keys.left < d.keysNeeded →
        ∃ t', (TargetStep.mk (.create request) jammed).perform.run t = (.error keysExhausted, t') ∧
          Unchanged t t' ∧ t'.state.keys.left = 0

theorem perform_exhausted {request : CreateRequest} {d : Definition}
    (hfind : t.definitions.find? (fun d => d.key == request.definitionKey) = some d)
    (h : t.state.keys.left < d.keysNeeded) (jammed : Option FileError) :
    (TargetStep.mk (.create request) jammed).perform.run t =
      (.error keysExhausted, t.withKeys (t.state.keys.advance t.state.keys.left)) := by
  have hcall : ∀ t : TargetEngine,
      t.definitions.find? (fun d => d.key == request.definitionKey) = some d →
      t.state.keys.left < d.keysNeeded → (TargetCall.create request).perform.run t =
        (.error keysExhausted, t.withKeys (t.state.keys.advance t.state.keys.left)) :=
    fun t hfind h => Action.run_bind_error (createInstance_exhausted hfind h) _
  cases jammed with
  | none => exact hcall t hfind h
  | some cause =>
    -- the keys are drawn before the journal is touched
    show jam cause (TargetCall.create request).perform t = _
    unfold jam
    rw [hcall (t.withJournal (.broken cause)) hfind h]
    rfl

theorem runsOut (h : t.Wrote es) : RunsOut t where
  fails request d hfind := by
    refine ⟨?_, fun hless => by rw [createInstance_exhausted hfind hless]⟩
    intro hrun
    by_contra hroom
    have hcreate := createInstance_accepted h hfind (Nat.not_lt.1 hroom) t rfl
    split at hcreate
    · next hok =>
      rw [hok] at hrun
      cases hrun
    · exact hcreate
  refuses request d jammed hfind h :=
    ⟨_, perform_exhausted hfind h jammed, ⟨rfl, rfl, rfl, rfl⟩, by
      rw [keys_withKeys, KeyAllocator.left_advance, Nat.sub_self]⟩

/-! ## Everything at once -/

/-- What holds of a journal with these entries when it is opened with these definitions. -/
structure UsesKeysOnce (definitions : List Definition) (path : String) (es : List JournalEntry)
    (f : JournalFile) : Prop where
  holds : f.Holds es
  /-- All keys in the journal ascend in the order of the journal, are of its partition, and are not
  those of definitions. -/
  inOrder : JournalEntry.KeysInOrder (definitions.map (·.key)) es
  /-- What is left after opening lies just above all keys that journal and definitions know;
  nothing is left if and only if they know the last one. -/
  opened : ∀ t, TargetEngine.open definitions path f = .ok t →
    t.state.keys.JustAbove (definitions.map (·.key) ++ es.flatMap JournalEntry.keys) ∧
      (t.state.keys.left = 0 ↔
        Key.last ∈ definitions.map (·.key) ++ es.flatMap JournalEntry.keys)
  /-- At any time of a session, creations that need more keys than are left fail and append
  nothing. -/
  runsOut : ∀ t, TargetEngine.open definitions path f = .ok t →
    ∀ steps, RunsOut (t.after steps)

/-- **Keys are never used again**, in any number of sessions on a journal that was absent at
first, each of which opens it anew with the same definitions and makes any calls. -/
theorem keys_are_never_reused (definitions : List Definition) (path : String)
    (sessions : List (List TargetStep)) :
    ∃ es, UsesKeysOnce definitions path es
      (JournalFile.absent.afterSessions path (sessions.map (TargetSession.mk definitions))) := by
  obtain ⟨es, h⟩ := (InOrderOn.absent (definitions.map (·.key))).afterSessions path
    (sessions.map (TargetSession.mk definitions)) fun s hs key hkey => by
      obtain ⟨steps, _, rfl⟩ := List.mem_map.1 hs
      exact hkey
  refine ⟨es, h.holds, h.1, ?_, ?_⟩
  · intro t hopen
    rw [h.keys_of_open hopen]
    -- an opened engine goes on right above all keys that the journal names
    have habove := KeyAllocator.justAbove_resumeAfterAll
      (definitions.map (·.key) ++ es.flatMap JournalEntry.keys)
    exact ⟨habove, habove.left_eq_zero_iff⟩
  · intro t hopen steps
    obtain ⟨es', h'⟩ := (h.opened hopen fun _ hkey => hkey).after steps
    exact runsOut h'.wrote

/-! ## A partition that runs out -/

/-- A process with one listener whose key leaves eight keys of the journal's partition. -/
def lastOrder : Definition :=
  ⟨Key.last - 8, "order", 1, none, ["start"], some ⟨"start", ["migrator"]⟩⟩

/-- An attempt to start it, on a journal that may be jammed. -/
def lastStart (jammed : Option FileError) : TargetStep :=
  ⟨.create ⟨Key.last - 8, "order", none, .empty⟩, jammed⟩

/-- The instance with this key and the two keys behind it. -/
def lastInstance (key : Int) : StartedInstance :=
  ⟨key, Key.last - 8, "order", none, some "start", some (key + 1), [⟨key + 2, "migrator"⟩], .empty⟩

/-- In each session a start more than there are keys for is attempted. -/
def lastSessions : List (List TargetStep) :=
  [[lastStart none, lastStart (some .isDirectory), lastStart none], [lastStart none, lastStart none],
    [lastStart none]]

/-- The instances that these sessions start. -/
def lastInstances : List StartedInstance :=
  [lastInstance (Key.last - 7), lastInstance (Key.last - 4)]

theorem regular_lastInstances : ∀ e ∈ lastInstances, e.Regular := by
  have hregular : ∀ key, Key.Fits key → Key.Fits (key + 1) → Key.Fits (key + 2) →
      (lastInstance key).Regular := by
    intro key hkey helement hjob
    have hdefinition : Key.Fits (Key.last - 8) := ⟨by decide, by decide⟩
    refine ⟨hkey, hdefinition, ?_, ?_, ?_⟩
    · intro key' hkey'
      rwa [← Option.mem_some_iff.1 hkey']
    · intro j hj
      rwa [List.mem_singleton.1 hj]
    · intro v hv
      cases hv
  simp only [lastInstances, List.forall_mem_cons]
  refine ⟨hregular _ ⟨by decide, by decide⟩ ⟨by decide, by decide⟩ ⟨by decide, by decide⟩,
    hregular _ ⟨by decide, by decide⟩ ⟨by decide, by decide⟩ ⟨by decide, by decide⟩, ?_⟩
  intro e he
  cases he

theorem fits_lastInstances : ∀ e ∈ lastInstances, (JournalEntry.create e).Fits := by
  decide

/-- The engine that is opened on a journal with these instances. -/
def lastEngine (f : JournalFile) (started : List StartedInstance) : TargetEngine :=
  ⟨[lastOrder], f, (TargetState.start [lastOrder]).addAll (started.map JournalEntry.create)⟩

theorem open_lastInstances {f : JournalFile} {started : List StartedInstance}
    (hf : f.Holds (started.map JournalEntry.create)) (h : ∀ e ∈ started, e ∈ lastInstances) :
    TargetEngine.open [lastOrder] "journal.jsonl" f = .ok (lastEngine f started) := by
  refine open_of_holds hf ?_ ?_ (foldlM_apply_create _ started) _
  · exact List.forall_mem_map.2 fun e he => regular_lastInstances e (h e he)
  · exact List.forall_mem_map.2 fun e he => fits_lastInstances e (h e he)

/-- The first session leaves one entry, since its second attempt is not taken by the journal. -/
theorem first_session : JournalFile.afterSession "journal.jsonl" .absent
    ⟨[lastOrder], [lastStart none, lastStart (some .isDirectory), lastStart none]⟩ =
      .text ((JournalEntry.create (lastInstance (Key.last - 7))).line ++ "\n") := by
  rfl

/-- In the second session the keys that were drawn in vain are back, and there are enough of them
for one start. -/
theorem second_session (content : String) :
    ((lastEngine (.text content) [lastInstance (Key.last - 7)]).after
      [lastStart none, lastStart none]).journal =
        .text (content ++ (JournalEntry.create (lastInstance (Key.last - 4))).line ++ "\n") := by
  rfl

/-- In the third session there are too few. -/
theorem third_session (content : String) :
    ((lastEngine (.text content) lastInstances).after [lastStart none]).journal =
      .text content := by
  rfl

theorem lastSessions_journal : (JournalFile.absent.afterSessions "journal.jsonl"
    (lastSessions.map (TargetSession.mk [lastOrder]))).Holds
      (lastInstances.map JournalEntry.create) := by
  have hfirst : (JournalFile.text ((JournalEntry.create (lastInstance (Key.last - 7))).line ++
      "\n")).Holds ([lastInstance (Key.last - 7)].map JournalEntry.create) :=
    .inr ⟨_, rfl, by simp [JournalEntry.journalChars]⟩
  obtain ⟨f, happend, hboth⟩ := hfirst.append (.create (lastInstance (Key.last - 4)))
  cases happend
  replace hboth : JournalFile.Holds (lastInstances.map JournalEntry.create) _ := hboth
  unfold lastSessions
  rw [List.map_cons, afterSessions_cons, first_session, List.map_cons, afterSessions_cons,
    afterSession_of_open (open_lastInstances hfirst (by simp [lastInstances])), second_session,
    List.map_singleton, afterSessions_cons,
    afterSession_of_open (open_lastInstances hboth (by simp)), third_session]
  exact hboth

/-- Of six attempts to start an instance in three sessions two succeed. A start needs three keys: in
each session the last attempt draws those that are left in vain, and so does one whose entry the
journal does not take. When the journal is opened again they are back, until two are left. -/
theorem two_last_orders_are_started :
    ∃ es, UsesKeysOnce [lastOrder] "journal.jsonl" es
        (JournalFile.absent.afterSessions "journal.jsonl"
          (lastSessions.map (TargetSession.mk [lastOrder]))) ∧
      es.map JournalEntry.keys = [[Key.last - 7, Key.last - 6, Key.last - 5],
        [Key.last - 4, Key.last - 3, Key.last - 2]] ∧
      ((fresh [lastOrder]).after [lastStart none, lastStart (some .isDirectory)]).state.keys.left = 2 ∧
      ∃ t, TargetEngine.open [lastOrder] "journal.jsonl"
          (JournalFile.absent.afterSessions "journal.jsonl"
            (lastSessions.map (TargetSession.mk [lastOrder]))) = .ok t ∧
        t.state.keys.left = 2 ∧ (t.after [lastStart none]).state.keys.left = 0 := by
  obtain ⟨es, hes⟩ := keys_are_never_reused [lastOrder] "journal.jsonl" lastSessions
  have hkeys := keys_of_holds lastSessions_journal hes.holds
    (List.forall_mem_map.2 regular_lastInstances) (List.forall_mem_map.2 fits_lastInstances)
  have hopen := open_lastInstances lastSessions_journal fun e he => he
  refine ⟨es, hes, ?_, by decide, _, hopen, by decide, by decide⟩
  rw [hkeys]
  decide

end TargetEngine
end ProcessMigration
