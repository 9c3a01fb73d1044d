import ProcessMigration.Proofs.TargetState
import ProcessMigration.Proofs.Triple

/-!
# The target engine and its journal

The state of the target engine is what its journal says. `TargetEngine.Sound` puts this together with
the invariant of the states; the three actions that change the engine are specified by what they make
of such an engine, and opening it again gives an engine of the same kind.

* `TargetEngine.createInstance_rule` goes through a creation up to the entry that it appends;
* `TargetEngine.createInstance_triple`: an accepted creation starts one instance with new keys, and
  one job for every listener; a refused one draws keys at most;
* `TargetEngine.modifyInstance_triple` and `TargetEngine.activateJobs_triple`;
* `TargetEngine.open_eq`: an engine is opened by reading the lines of its journal;
  `TargetEngine.open_sound`: an engine that is opened again has a state like the one before, with no
  job handed out;
* `TargetEngine.Wrote` names the entries in the journal of a sound engine; each of the above has a
  form that says which entry it adds;
* `TargetEngine.Deploys`: no action changes the definitions.
-/

namespace ProcessMigration

open ProcessMigration.Action (Triple)

/-- The keys that an entry brings. -/
def JournalEntry.keys : JournalEntry → List Int
  | .create e => TargetState.keysOf e
  | .modify _ => []

theorem JournalEntry.keys_bare (e : JournalEntry) : e.bare.keys = e.keys := by
  cases e <;> rfl

/-- Entries that differ in variables only bring the same keys. -/
theorem JournalEntry.keys_of_bare {es es' : List JournalEntry}
    (h : List.Forall₂ (fun e e' => e'.bare = e.bare) es es') :
    es'.flatMap JournalEntry.keys = es.flatMap JournalEntry.keys := by
  induction h with
  | nil => rfl
  | cons he _ ih =>
    rw [List.flatMap_cons, List.flatMap_cons, ih, ← JournalEntry.keys_bare, he,
      JournalEntry.keys_bare]

/-! ## Reading a journal -/

namespace TargetState

variable {s t : TargetState} {e : JournalEntry} {es : List JournalEntry}

theorem keys_add (s : TargetState) (e : JournalEntry) :
    (s.add e).keys = s.keys.resumeAfterAll e.keys := by
  cases e <;> rfl

theorem keys_addAll (s : TargetState) (es : List JournalEntry) :
    (s.addAll es).keys = s.keys.resumeAfterAll (es.flatMap JournalEntry.keys) := by
  induction es generalizing s with
  | nil => rfl
  | cons e es ih =>
    show ((s.add e).addAll es).keys = _
    rw [ih, keys_add, List.flatMap_cons]
    exact (List.foldl_append ..).symm

theorem handedOut_addAll (s : TargetState) (es : List JournalEntry) :
    (s.addAll es).handedOut = s.handedOut := by
  induction es generalizing s with
  | nil => rfl
  | cons e es ih =>
    show ((s.add e).addAll es).handedOut = _
    rw [ih]
    cases e <;> rfl

/-- Every instance and every job of a state that was read has a key of some entry. -/
def KnownTo (keys : List Int) (s : TargetState) : Prop :=
  (∀ i ∈ s.instances, i.instanceKey ∈ keys) ∧ ∀ j ∈ s.outstanding, j.key ∈ keys

theorem KnownTo.add {keys : List Int} (h : s.KnownTo keys) (e : JournalEntry) :
    (s.add e).KnownTo (keys ++ e.keys) := by
  obtain ⟨hinstances, hjobs⟩ := h
  cases e with
  | create e =>
    constructor
    · intro i hi
      rcases List.mem_append.1 hi with hi | hi
      · exact List.mem_append_left _ (hinstances i (List.mem_filter.1 hi).1)
      · rw [List.mem_singleton.1 hi]
        exact List.mem_append_right _ (instanceKey_mem_keysOf e)
    · intro j hj
      rcases List.mem_append.1 hj with hj | hj
      · exact List.mem_append_left _ (hjobs j hj)
      · exact List.mem_append_right _ (jobKey_mem_keysOf (mem_jobsOf hj).2.2)
  | modify m =>
    constructor
    · intro i hi
      obtain ⟨i', hi', rfl⟩ := List.mem_map.1 hi
      refine List.mem_append_left _ ?_
      show (afterModify m i').instanceKey ∈ keys
      rw [instanceKey_afterModify]
      exact hinstances i' hi'
    · intro j hj
      exact List.mem_append_left _ (hjobs j (mem_outstanding_modify.1 hj).1)

theorem KnownTo.addAll {keys : List Int} (h : s.KnownTo keys) (es : List JournalEntry) :
    (s.addAll es).KnownTo (keys ++ es.flatMap JournalEntry.keys) := by
  induction es generalizing s keys with
  | nil => simpa [addAll] using h
  | cons e es ih =>
    rw [List.flatMap_cons, ← List.append_assoc]
    exact ih (h.add e)

theorem keys_start (definitions : List Definition) : (start definitions).keys =
    (KeyAllocator.forPartition journalPartition).resumeAfterAll (definitions.map (·.key)) := by
  unfold start KeyAllocator.resumeAfterAll
  rw [List.foldl_map]

theorem within_start (definitions : List Definition) :
    (start definitions).keys.Within := by
  have hstart : (KeyAllocator.forPartition journalPartition).Within := ⟨rfl, by decide, by decide⟩
  rw [keys_start]
  exact hstart.resumeAfterAll _

theorem sound_start (definitions : List Definition) : (start definitions).Sound where
  keys := within_start definitions
  instanceKeys := .nil
  jobKeys := .nil
  instancesPassed _ h := by cases h
  jobsPassed _ h := by cases h
  handedOutPassed _ h := by cases h
  waits _ h := by cases h
  oneElement _ h := by cases h

end TargetState

namespace TargetEngine

variable {t t' : TargetEngine} {e : JournalEntry} {es : List JournalEntry}

/-- Written entries are read as entries that differ in variables only. -/
theorem eq_addAll_of_replay {path : String} {s s' : TargetState} {number : Nat}
    (h : replay path s number (es.map JournalEntry.line) = .ok s') :
    ∃ es', List.Forall₂ (fun e e' => e'.bare = e.bare) es es' ∧ s' = s.addAll es' := by
  induction es generalizing s number with
  | nil =>
    cases h
    exact ⟨[], .nil, rfl⟩
  | cons e es ih =>
    rw [List.map_cons] at h
    unfold replay at h
    rw [JournalEntry.line_not_blank] at h
    simp only [Bool.false_eq_true, if_false] at h
    split at h
    · cases h
    · next e' hread =>
      split at h
      · cases h
      · next s₁ happly =>
        obtain ⟨es', hes, hs'⟩ := ih h
        refine ⟨e' :: es', .cons (JournalEntry.bare_of_read? hread) hes, ?_⟩
        rw [hs', TargetState.eq_add_of_apply happly]
        rfl

/-- Reading a journal passes over keys only. -/
theorem nextLocal_le_replay {path : String} {s s' : TargetState} {number : Nat}
    {lines : List String} (h : replay path s number lines = .ok s') :
    s.keys.nextLocal ≤ s'.keys.nextLocal := by
  induction lines generalizing s number with
  | nil =>
    cases h
    exact Int.le_refl _
  | cons line rest ih =>
    unfold replay at h
    split at h
    · exact ih h
    · split at h
      · cases h
      · next e _ =>
        split at h
        · cases h
        · next s₁ happly =>
          have hadd : s.keys.nextLocal ≤ s₁.keys.nextLocal := by
            rw [TargetState.eq_add_of_apply happly, TargetState.keys_add]
            exact KeyAllocator.nextLocal_le_resumeAfterAll _ _
          exact Int.le_trans hadd (ih h)

/-- Opening an engine is reading the lines of its journal. -/
theorem open_eq {journal : JournalFile} {content : String} (hcontent : journal.content = .ok content)
    (definitions : List Definition) (path : String) :
    TargetEngine.open definitions path journal =
      (replay path (.start definitions) 1 (Text.lines content)).map fun s =>
        ⟨definitions, journal, s⟩ := by
  unfold TargetEngine.open
  simp only [hcontent]
  cases replay path (.start definitions) 1 (Text.lines content) with
  | ok s => rfl
  | error e => rfl

/-- An engine that was opened has the state that the lines lead to. -/
theorem replay_of_open {definitions : List Definition} {path : String} {journal : JournalFile}
    (hopen : TargetEngine.open definitions path journal = .ok t') :
    ∃ content s, journal.content = .ok content ∧
      replay path (.start definitions) 1 (Text.lines content) = .ok s ∧
      t' = ⟨definitions, journal, s⟩ := by
  cases hcontent : journal.content with
  | error cause =>
    unfold TargetEngine.open at hopen
    rw [hcontent] at hopen
    cases hopen
  | ok content =>
    rw [open_eq hcontent] at hopen
    cases hreplay : replay path (.start definitions) 1 (Text.lines content) with
    | error e =>
      rw [hreplay] at hopen
      cases hopen
    | ok s =>
      rw [hreplay] at hopen
      cases hopen
      exact ⟨content, s, rfl, hreplay, rfl⟩

theorem nextLocal_le_open {definitions : List Definition} {path : String} {journal : JournalFile}
    (h : TargetEngine.open definitions path journal = .ok t') :
    (TargetState.start definitions).keys.nextLocal ≤ t'.state.keys.nextLocal := by
  obtain ⟨_, _, _, hreplay, rfl⟩ := replay_of_open h
  exact nextLocal_le_replay hreplay

/-! ## The invariant -/

/-- The state is what the journal with these entries says. -/
structure Recorded (es : List JournalEntry) (t : TargetEngine) : Prop where
  journal : t.journal.Holds es
  alike : ((TargetState.start []).addAll es).Alike t.state
  passed : ∀ key ∈ es.flatMap JournalEntry.keys, t.state.keys.Passed key

/-- What holds of the target engine at any time. -/
structure Sound (t : TargetEngine) : Prop where
  recorded : ∃ es, t.Recorded es
  state : t.state.Sound

/-- A sound engine whose journal has these entries. -/
structure Wrote (es : List JournalEntry) (t : TargetEngine) : Prop where
  recorded : t.Recorded es
  state : t.state.Sound

theorem Wrote.sound (h : t.Wrote es) : t.Sound := ⟨⟨es, h.recorded⟩, h.state⟩

theorem Sound.wrote (h : t.Sound) : ∃ es, t.Wrote es := by
  obtain ⟨es, hes⟩ := h.recorded
  exact ⟨es, hes, h.state⟩

theorem wrote_start (definitions : List Definition) :
    (TargetEngine.mk definitions .absent (.start definitions)).Wrote [] where
  recorded := ⟨.inl ⟨rfl, rfl⟩, ⟨rfl, rfl⟩, fun _ h => by cases h⟩
  state := TargetState.sound_start definitions

theorem sound_start (definitions : List Definition) :
    (TargetEngine.mk definitions .absent (.start definitions)).Sound :=
  (wrote_start definitions).sound

/-- The engine with an allocator in another condition. -/
def withKeys (t : TargetEngine) (keys : KeyAllocator) : TargetEngine :=
  { t with state := t.state.withKeys keys }

/-- Keys were drawn, and nothing else has happened. -/
def Idle (t t' : TargetEngine) : Prop :=
  ∃ a keys, t.state.keys.Draws a keys ∧ t' = t.withKeys a

theorem Idle.wrote (h : t.Idle t') (ht : t.Wrote es) : t'.Wrote es := by
  obtain ⟨a, keys, hdraws, rfl⟩ := h
  have hes := ht.recorded
  refine ⟨⟨hes.journal, ⟨hes.alike.instances, hes.alike.outstanding⟩, ?_⟩, ht.state.withKeys hdraws⟩
  intro key hkey
  exact hdraws.keepsPassed (hes.passed key hkey)

theorem Idle.sound (h : t.Idle t') (ht : t.Sound) : t'.Sound := by
  obtain ⟨es, hes⟩ := ht.wrote
  exact (h.wrote hes).sound

/-- An engine that is opened again has added the entries as they are read back: of the variables only
the id of the source instance is sure to be the same. -/
theorem addAll_of_open {definitions : List Definition} {path : String} (h : t.Wrote es)
    (hopen : TargetEngine.open definitions path t.journal = .ok t') :
    ∃ es', List.Forall₂ (fun e e' => e'.bare = e.bare) es es' ∧
      t' = ⟨definitions, t.journal, (TargetState.start definitions).addAll es'⟩ := by
  obtain ⟨content, hcontent, hlines⟩ := h.recorded.journal.lines
  obtain ⟨content', s, hcontent', hreplay, rfl⟩ := replay_of_open hopen
  obtain rfl : content = content' := Except.ok.inj (hcontent.symm.trans hcontent')
  rw [hlines] at hreplay
  obtain ⟨es', hread, rfl⟩ := eq_addAll_of_replay hreplay
  exact ⟨es', hread, rfl⟩

/-- An engine that is opened again has the same entries and a state like the one before. -/
theorem open_wrote {definitions : List Definition} {path : String} (h : t.Wrote es)
    (hopen : TargetEngine.open definitions path t.journal = .ok t') :
    t'.Wrote es ∧ t.state.Alike t'.state ∧ t'.definitions = definitions ∧
      t'.state.handedOut = [] := by
  have hes := h.recorded
  obtain ⟨es', hread, rfl⟩ := addAll_of_open h hopen
  have hkeys := JournalEntry.keys_of_bare hread
  have hstart : (TargetState.start []).Alike (TargetState.start definitions) := ⟨rfl, rfl⟩
  have halike := hstart.addAll hread
  have hwithin : ((TargetState.start definitions).addAll es').keys.Within := by
    rw [TargetState.keys_addAll]
    exact (TargetState.within_start definitions).resumeAfterAll _
  -- the keys of the entries are of the journal's partition, so the new allocator passes them too
  have hpassed : ∀ key ∈ es.flatMap JournalEntry.keys,
      ((TargetState.start definitions).addAll es').keys.Passed key := by
    intro key hkey
    rw [TargetState.keys_addAll, hkeys]
    refine KeyAllocator.passed_resumeAfterAll hkey ?_
    rw [(TargetState.within_start definitions).partition, (hes.passed key hkey).1]
    exact h.state.keys.partition
  have hknown : ((TargetState.start definitions).addAll es').KnownTo
      (es.flatMap JournalEntry.keys) := by
    have hnothing : (TargetState.start definitions).KnownTo [] :=
      ⟨fun i hi => (by cases hi), fun j hj => (by cases hj)⟩
    have hall := hnothing.addAll es'
    rw [List.nil_append, hkeys] at hall
    exact hall
  have hhanded : ((TargetState.start definitions).addAll es').handedOut = [] := by
    rw [TargetState.handedOut_addAll]
    rfl
  have hnow := hes.alike.symm.trans halike
  refine ⟨⟨⟨hes.journal, halike, hpassed⟩, ?_⟩, hnow, rfl, hhanded⟩
  exact hnow.sound h.state hwithin (fun i hi => hpassed _ (hknown.1 i hi))
    (fun j hj => hpassed _ (hknown.2 j hj)) hhanded

theorem open_sound {definitions : List Definition} {path : String} (h : t.Sound)
    (hopen : TargetEngine.open definitions path t.journal = .ok t') :
    t'.Sound ∧ t.state.Alike t'.state ∧ t'.definitions = definitions ∧
      t'.state.handedOut = [] := by
  obtain ⟨es, hes⟩ := h.wrote
  obtain ⟨hwrote, hrest⟩ := open_wrote hes hopen
  exact ⟨hwrote.sound, hrest⟩

/-! ## Drawing keys -/

theorem drawKey_triple (t₀ : TargetEngine) :
    Triple (fun t => t = t₀) drawKey
      (fun key t => ∃ a, t₀.state.keys.Draws a [key] ∧ t = t₀.withKeys a) (Idle t₀) := by
  intro t ht
  subst ht
  unfold Action.run drawKey
  cases hnext : t.state.keys.next? with
  | none => exact ⟨t.state.keys, [], .refl _, rfl⟩
  | some p => exact ⟨p.2, KeyAllocator.draws_next? hnext, rfl⟩

theorem Idle.trans {t'' : TargetEngine} {a : KeyAllocator} {keys : List Int}
    (hdraws : t.state.keys.Draws a keys) (h : Idle (t.withKeys a) t'') : Idle t t'' := by
  obtain ⟨a', keys', hdraws', rfl⟩ := h
  exact ⟨a', _, hdraws.trans hdraws', rfl⟩

theorem drawJobs_triple (types : List String) (t₀ : TargetEngine) :
    Triple (fun t => t = t₀) (drawJobs types)
      (fun jobs t => jobs.map (·.jobType) = types ∧
        ∃ a, t₀.state.keys.Draws a (jobs.map (·.key)) ∧ t = t₀.withKeys a) (Idle t₀) := by
  induction types generalizing t₀ with
  | nil =>
    apply Triple.pure
    intro t ht
    subst ht
    exact ⟨rfl, t.state.keys, .refl _, rfl⟩
  | cons type rest ih =>
    refine Triple.bind (drawKey_triple t₀) ?_
    intro key
    apply Triple.of_state
    rintro t₁ ⟨a, hdraws, hrest⟩
    subst hrest
    refine Triple.bind ((ih (t₀.withKeys a)).ends (fun _ _ h => h)
      fun t ht => Idle.trans hdraws ht) ?_
    intro jobs
    apply Triple.pure
    rintro t ⟨htypes, a', hdraws', ht⟩
    exact ⟨by simp [htypes], a', hdraws.trans hdraws', ht⟩

/-! ## Commands -/

/-- What an accepted creation makes of the engine. -/
structure Starts (request : CreateRequest) (e : StartedInstance) (t t' : TargetEngine) : Prop where
  definition : ∃ d, t.definitions.find? (fun d => d.key == request.definitionKey) = some d ∧
    e.jobs.map (·.jobType) = (d.startEvent.map (·.listenerJobTypes)).getD [] ∧
    e.startElementInstanceKey.isSome = d.startEvent.isSome
  vars : e.vars = request.vars
  state : ∃ a, t.state.keys.Draws a (TargetState.keysOf e) ∧
    t'.state = (t.state.withKeys a).create e
  definitions : t'.definitions = t.definitions

namespace Starts

variable {request : CreateRequest} {e : StartedInstance}

/-- The state after an accepted creation. -/
theorem state_eq (h : Starts request e t t') (ht : t.Sound) :
    ∃ a, t.state.keys.Draws a (TargetState.keysOf e) ∧ t'.state = { t.state with
      keys := a
      instances := t.state.instances ++ [TargetState.instanceOf e]
      outstanding := t.state.outstanding ++ TargetState.jobsOf e } := by
  obtain ⟨a, hdraws, hstate⟩ := h.state
  exact ⟨a, hdraws, hstate.trans (TargetState.create_eq ht.state hdraws)⟩

theorem instances (h : Starts request e t t') (ht : t.Sound) :
    t'.state.instances = t.state.instances ++ [TargetState.instanceOf e] := by
  obtain ⟨a, _, hstate⟩ := h.state_eq ht
  rw [hstate]

theorem outstanding (h : Starts request e t t') (ht : t.Sound) :
    t'.state.outstanding = t.state.outstanding ++ TargetState.jobsOf e := by
  obtain ⟨a, _, hstate⟩ := h.state_eq ht
  rw [hstate]

theorem handedOut (h : Starts request e t t') (ht : t.Sound) :
    t'.state.handedOut = t.state.handedOut := by
  obtain ⟨a, _, hstate⟩ := h.state_eq ht
  rw [hstate]

/-- No job of a new instance was handed out. -/
theorem notHandedOut (h : Starts request e t t') (ht : t.Sound) {j : Job}
    (hj : j ∈ TargetState.jobsOf e) : j.key ∉ t.state.handedOut := by
  obtain ⟨a, hdraws, _⟩ := h.state
  have hmem := TargetState.jobKey_mem_keysOf (TargetState.mem_jobsOf hj).2.2
  have hnew := (hdraws.fresh ht.state.keys j.key hmem).1
  intro hkey
  exact hnew (ht.state.handedOutPassed j.key hkey)

/-- The key of a new instance is not that of an older one. -/
theorem newKey (h : Starts request e t t') (ht : t.Sound) {i : TargetInstance}
    (hi : i ∈ t.state.instances) : i.instanceKey ≠ e.instanceKey := by
  obtain ⟨a, hdraws, _⟩ := h.state
  intro heq
  have hnew := (hdraws.fresh ht.state.keys _ (TargetState.instanceKey_mem_keysOf e)).1
  exact hnew (heq ▸ ht.state.instancesPassed i hi)

end Starts

theorem addAll_append_singleton (s : TargetState) (es : List JournalEntry) (e : JournalEntry) :
    s.addAll (es ++ [e]) = (s.addAll es).add e := by
  simp [TargetState.addAll]

/-- An entry that starts an instance with new keys is accepted. -/
theorem accept_create {t₀ : TargetEngine} (h : t₀.Wrote es) {operation : String}
    {e : StartedInstance} {a : KeyAllocator}
    (hdraws : t₀.state.keys.Draws a (TargetState.keysOf e)) :
    Triple (fun t => t = t₀.withKeys a) (accept operation (.create e))
      (fun _ t => t.state = (t₀.state.withKeys a).create e ∧ t.definitions = t₀.definitions ∧
        t.Wrote (es ++ [.create e])) (fun _ => False) := by
  intro t ht
  subst ht
  have hes := h.recorded
  obtain ⟨journal, happend, hholds⟩ := hes.journal.append (.create e)
  unfold Action.run accept
  rw [show (t₀.withKeys a).journal = t₀.journal from rfl]
  simp only [happend]
  refine ⟨rfl, rfl, ⟨hholds, ?_, ?_⟩, h.state.create hdraws⟩
  · have halike : ((TargetState.start []).addAll es).Alike (t₀.state.withKeys a) :=
      ⟨hes.alike.1, hes.alike.2⟩
    rw [addAll_append_singleton]
    exact halike.add rfl
  · intro key hkey
    show ((t₀.state.withKeys a).create e).keys.Passed key
    rw [TargetState.create_eq h.state hdraws]
    rw [List.flatMap_append] at hkey
    rcases List.mem_append.1 hkey with hkey | hkey
    · exact hdraws.keepsPassed (hes.passed key hkey)
    · rw [List.flatMap_singleton] at hkey
      exact (hdraws.fresh h.state.keys key hkey).2

/-- What a creation writes down of a request and a definition. -/
structure Records (request : CreateRequest) (d : Definition) (e : StartedInstance) : Prop where
  definitionKey : e.definitionKey = d.key
  businessId : e.businessId = d.businessId
  tenant : e.tenant = request.tenant
  vars : e.vars = request.vars
  jobs : e.jobs.map (·.jobType) = (d.startEvent.map (·.listenerJobTypes)).getD []
  element : e.startElementInstanceKey.isSome = d.startEvent.isSome

/-- The rule for a creation: it draws keys, perhaps in vain, and appends an entry with new keys. -/
theorem createInstance_rule {t₀ : TargetEngine} {request : CreateRequest}
    {Q : InstanceHandle → TargetEngine → Prop} {R : TargetEngine → Prop}
    (hidle : ∀ t, Idle t₀ t → R t)
    (haccept : ∀ d e a, t₀.definitions.find? (fun d => d.key == request.definitionKey) = some d →
      Records request d e → t₀.state.keys.Draws a (TargetState.keysOf e) →
      Triple (fun t => t = t₀.withKeys a) (accept "create_instance" (.create e))
        (fun _ t => Q ⟨e.instanceKey, d.key⟩ t) R) :
    Triple (fun t => t = t₀) (createInstance request) Q R := by
  unfold createInstance
  refine Triple.get_bind ?_
  split
  · apply Triple.fail
    intro t ht
    -- a definition that is not there is refused before a key is drawn
    refine hidle t ?_
    subst ht
    exact ⟨t.state.keys, [], .refl _, rfl⟩
  · next d hfind =>
    have hfinish : ∀ e a, Records request d e →
        t₀.state.keys.Draws a (TargetState.keysOf e) →
        Triple (fun t => t = t₀.withKeys a)
          (do accept "create_instance" (.create e); return ⟨e.instanceKey, d.key⟩) Q R :=
      fun e a hrecords hdraws =>
        Triple.bind (haccept d e a hfind hrecords hdraws) fun _ => Triple.pure fun _ h => h
    refine Triple.bind ((drawKey_triple t₀).ends (fun _ _ h => h) hidle) ?_
    intro instanceKey
    apply Triple.of_state
    rintro t₃ ⟨a, hdraws, ht₃⟩
    subst ht₃
    dsimp only
    split
    · next hstart =>
      exact hfinish ⟨instanceKey, d.key, d.businessId, request.tenant, none, none, [],
        request.vars⟩ a ⟨rfl, rfl, rfl, rfl, by simp [hstart], by simp [hstart]⟩ hdraws
    · next event hstart =>
      refine Triple.bind ((drawKey_triple (t₀.withKeys a)).ends (fun _ _ h => h)
        fun t ht => hidle t (Idle.trans hdraws ht)) ?_
      intro elementKey
      apply Triple.of_state
      rintro t₃ ⟨a', hdraws', ht₃⟩
      subst ht₃
      -- the keys of an entry are drawn in its order: instance, element, jobs
      have hdraws₂ := hdraws.trans hdraws'
      refine Triple.bind ((drawJobs_triple event.listenerJobTypes ((t₀.withKeys a).withKeys a')).ends
        (fun _ _ h => h) fun t ht => hidle t (Idle.trans (t := t₀) hdraws₂ ht)) ?_
      intro jobs
      apply Triple.of_state
      rintro t₃ ⟨htypes, a'', hdraws'', ht₃⟩
      subst ht₃
      exact hfinish ⟨instanceKey, d.key, d.businessId, request.tenant, some event.id,
        some elementKey, jobs, request.vars⟩ a''
        ⟨rfl, rfl, rfl, rfl, by simp [hstart, htypes], by simp [hstart]⟩ (hdraws₂.trans hdraws'')

/-- An accepted creation starts one instance and writes one entry, about the request and the first
definition of its key; a refused one draws keys at most. -/
theorem createInstance_records {t₀ : TargetEngine} (h : t₀.Wrote es) (request : CreateRequest) :
    Triple (fun t => t = t₀) (createInstance request)
      (fun handle t => ∃ d e,
        t₀.definitions.find? (fun d => d.key == request.definitionKey) = some d ∧
        Records request d e ∧ t.Wrote (es ++ [.create e]) ∧ handle.instanceKey = e.instanceKey ∧
        Starts request e t₀ t)
      (Idle t₀) := by
  refine createInstance_rule (fun _ ht => ht) ?_
  intro d e a hfind hrecords hdraws
  refine (accept_create h hdraws).ends ?_ fun _ ht => ht.elim
  intro _ t ⟨hstate, hdefinitions, hwrote⟩
  exact ⟨d, e, hfind, hrecords, hwrote, rfl, ⟨d, hfind, hrecords.jobs, hrecords.element⟩,
    hrecords.vars, ⟨a, hdraws, hstate⟩, hdefinitions⟩

theorem createInstance_wrote {t₀ : TargetEngine} (h : t₀.Wrote es) (request : CreateRequest) :
    Triple (fun t => t = t₀) (createInstance request)
      (fun handle t => ∃ e, t.Wrote (es ++ [.create e]) ∧ handle.instanceKey = e.instanceKey ∧
        Starts request e t₀ t)
      (Idle t₀) := by
  refine (createInstance_records h request).post ?_
  rintro handle t ⟨d, e, _, _, hwrote, hkey, hstarts⟩
  exact ⟨e, hwrote, hkey, hstarts⟩

/-- An accepted creation starts one instance; a refused one draws keys at most. -/
theorem createInstance_triple {t₀ : TargetEngine} (h : t₀.Sound) (request : CreateRequest) :
    Triple (fun t => t = t₀) (createInstance request)
      (fun handle t => t.Sound ∧ ∃ e, handle.instanceKey = e.instanceKey ∧ Starts request e t₀ t)
      (Idle t₀) := by
  obtain ⟨es, hes⟩ := h.wrote
  refine (createInstance_wrote hes request).post ?_
  intro handle t ⟨e, hwrote, hkey, hstarts⟩
  exact ⟨hwrote.sound, e, hkey, hstarts⟩

/-- A modification that is accepted moves the tokens of an instance that is there and writes one
entry. -/
theorem modifyInstance_wrote {t₀ : TargetEngine} (h : t₀.Wrote es) (m : ModifiedInstance) :
    Triple (fun t => t = t₀) (modifyInstance m.instanceKey m.terminatedKey m.activations)
      (fun _ t => t.Wrote (es ++ [.modify m]) ∧ t.state = t₀.state.modify m ∧
        t.definitions = t₀.definitions)
      (fun t => t = t₀) := by
  unfold modifyInstance
  refine Triple.get_bind ?_
  split
  · next hthere =>
    intro t ht
    subst ht
    have hes := h.recorded
    obtain ⟨journal, happend, hholds⟩ := hes.journal.append (.modify m)
    have happly : t.state.apply (.modify m) = .ok (t.state.modify m) := if_pos hthere
    unfold Action.run accept
    simp only [happend, happly, and_true]
    refine ⟨⟨hholds, ?_, ?_⟩, h.state.modify m⟩
    · rw [addAll_append_singleton]
      exact hes.alike.add rfl
    · intro key hkey
      rw [List.flatMap_append] at hkey
      rcases List.mem_append.1 hkey with hkey | hkey
      · exact hes.passed key hkey
      · cases hkey
  · exact Triple.fail fun t ht => ht

theorem modifyInstance_triple {t₀ : TargetEngine} (h : t₀.Sound) (m : ModifiedInstance) :
    Triple (fun t => t = t₀) (modifyInstance m.instanceKey m.terminatedKey m.activations)
      (fun _ t => t.Sound ∧ t.state = t₀.state.modify m ∧ t.definitions = t₀.definitions)
      (fun t => t = t₀) := by
  obtain ⟨es, hes⟩ := h.wrote
  refine (modifyInstance_wrote hes m).post ?_
  intro _ t ⟨hwrote, hrest⟩
  exact ⟨hwrote.sound, hrest⟩

theorem mem_available {s : TargetState} {jobType : String} {limit : Nat} {j : Job}
    (h : j ∈ available s jobType limit) :
    j ∈ s.outstanding ∧ j.jobType = jobType ∧ j.key ∉ s.handedOut := by
  obtain ⟨hout, hnew⟩ := List.mem_filter.1 (List.mem_of_mem_take h)
  rw [Bool.and_eq_true] at hnew
  exact ⟨hout, beq_iff_eq.1 hnew.1, by simpa using hnew.2⟩

theorem one_le_of_available {s : TargetState} {jobType : String} {limit : Nat} {j : Job}
    (h : j ∈ available s jobType limit) : 1 ≤ limit := by
  have hlength := List.length_pos_of_mem h
  unfold available at hlength
  rw [List.length_take] at hlength
  omega

theorem keys_available {s : TargetState} (h : s.Sound) (jobType : String) (limit : Nat) :
    ((available s jobType limit).map (·.key)).Nodup :=
  (((List.take_sublist _ _).trans List.filter_sublist).map _).nodup h.jobKeys

/-- Where none is handed out, none waits that could be. -/
theorem handedOut_of_available_nil {s : TargetState} {jobType : String} {limit : Nat}
    (hlimit : 1 ≤ limit) (h : available s jobType limit = []) {j : Job} (hj : j ∈ s.outstanding)
    (htype : j.jobType = jobType) : j.key ∈ s.handedOut := by
  by_contra hnew
  have hnone := (List.take_eq_nil_iff.1 h).resolve_left (by omega)
  exact List.filter_eq_nil_iff.1 hnone j hj (by simp [htype, hnew])

/-- Jobs are handed out from those that wait and were not handed out before. -/
theorem activateJobs_wrote {t₀ : TargetEngine} (h : t₀.Wrote es) (jobType : String) (limit : Nat) :
    Triple (fun t => t = t₀) (activateJobs jobType limit)
      (fun jobs t => t.Wrote es ∧ jobs = available t₀.state jobType limit ∧
        t.state = t₀.state.handOut jobs ∧ t.definitions = t₀.definitions)
      (fun _ => False) := by
  intro t ht
  subst ht
  have hes := h.recorded
  have hjobs : ∀ j ∈ available t.state jobType limit, j ∈ t.state.outstanding := by
    intro j hj
    exact (List.mem_filter.1 (List.mem_of_mem_take hj)).1
  have hwrote : Wrote es { t with state := t.state.handOut (available t.state jobType limit) } :=
    ⟨⟨hes.journal, ⟨hes.alike.1, hes.alike.2⟩, hes.passed⟩, h.state.handOut hjobs⟩
  exact ⟨hwrote, rfl, rfl, rfl⟩

theorem activateJobs_triple {t₀ : TargetEngine} (h : t₀.Sound) (jobType : String) (limit : Nat) :
    Triple (fun t => t = t₀) (activateJobs jobType limit)
      (fun jobs t => t.Sound ∧ jobs = available t₀.state jobType limit ∧
        t.state = t₀.state.handOut jobs ∧ t.definitions = t₀.definitions)
      (fun _ => False) := by
  obtain ⟨es, hes⟩ := h.wrote
  refine (activateJobs_wrote hes jobType limit).post ?_
  intro jobs t ⟨hwrote, hrest⟩
  exact ⟨hwrote.sound, hrest⟩

/-! ## The definitions stay -/

section

variable {definitions : List Definition}

/-- The engine has these definitions. -/
def Deploys (definitions : List Definition) (t : TargetEngine) : Prop := t.definitions = definitions

theorem drawKey_deploys :
    Triple (Deploys definitions) drawKey (fun _ => Deploys definitions) (Deploys definitions) := by
  intro t ht
  unfold Action.run drawKey
  split
  · next heq => split at heq <;> cases heq; exact ht
  · next heq => split at heq <;> cases heq; exact ht

theorem drawJobs_deploys (types : List String) :
    Triple (Deploys definitions) (drawJobs types) (fun _ => Deploys definitions)
      (Deploys definitions) := by
  induction types with
  | nil => exact Triple.pure fun t ht => ht
  | cons type rest ih =>
    exact Triple.bind drawKey_deploys fun key => Triple.bind ih fun jobs =>
      Triple.pure fun t ht => ht

theorem accept_deploys (operation : String) (e : JournalEntry) :
    Triple (Deploys definitions) (accept operation e) (fun _ => Deploys definitions)
      (Deploys definitions) := by
  intro t ht
  unfold Action.run accept
  cases t.journal.append e.line with
  | error cause => exact ht
  | ok journal =>
    cases t.state.apply e with
    | ok state => exact ht
    | error message => exact ht

theorem createInstance_deploys (request : CreateRequest) :
    Triple (Deploys definitions) (createInstance request) (fun _ => Deploys definitions)
      (Deploys definitions) := by
  unfold createInstance
  refine Triple.bind (M := fun _ => Deploys definitions) (Triple.get fun t ht => ht) ?_
  intro t₀
  split
  · exact Triple.fail fun t ht => ht
  · refine Triple.bind drawKey_deploys ?_
    intro key
    have hfinish : ∀ e handle, Triple (Deploys definitions)
        (do accept "create_instance" e; return handle : TargetAction InstanceHandle)
        (fun _ => Deploys definitions) (Deploys definitions) := by
      intro e handle
      exact Triple.bind (accept_deploys _ e) fun _ => Triple.pure fun t ht => ht
    dsimp only
    split
    · exact hfinish _ _
    · refine Triple.bind drawKey_deploys ?_
      intro elementKey
      exact Triple.bind (drawJobs_deploys _) fun jobs => hfinish _ _

theorem modifyInstance_deploys (key terminated : Int) (activations : List Activation) :
    Triple (Deploys definitions) (modifyInstance key terminated activations)
      (fun _ => Deploys definitions) (Deploys definitions) := by
  unfold modifyInstance
  refine Triple.bind (M := fun _ => Deploys definitions) (Triple.get fun t ht => ht) ?_
  intro t₀
  split
  · exact accept_deploys _ _
  · exact Triple.fail fun t ht => ht

theorem activateJobs_deploys (jobType : String) (limit : Nat) :
    Triple (Deploys definitions) (activateJobs jobType limit) (fun _ => Deploys definitions)
      (Deploys definitions) :=
  fun _ ht => ht

end

/-! ## Commands that succeed -/

/-- So many keys are left. -/
def HasRoom (n : Nat) (t : TargetEngine) : Prop := t.state.keys.nextLocal + n ≤ Key.span

/-- There are keys, and the journal can be written. -/
def Serves (n : Nat) (t : TargetEngine) : Prop := t.HasRoom n ∧ ∃ es, t.journal.Holds es

theorem drawKey_succeeds (n : Nat) :
    Triple (Serves (n + 1)) drawKey (fun _ => Serves n) (fun _ => False) := by
  intro t ⟨hroom, hjournal⟩
  have hnext : t.state.keys.nextLocal < Key.span := by
    unfold HasRoom at hroom
    omega
  unfold Action.run drawKey KeyAllocator.next?
  rw [if_pos hnext]
  refine ⟨?_, hjournal⟩
  unfold HasRoom at hroom ⊢
  show t.state.keys.nextLocal + 1 + (n : Int) ≤ Key.span
  omega

theorem drawJobs_succeeds (types : List String) :
    Triple (Serves types.length) (drawJobs types) (fun _ => Serves 0) (fun _ => False) := by
  induction types with
  | nil => exact Triple.pure fun t ht => ht
  | cons type rest ih =>
    refine Triple.bind (drawKey_succeeds rest.length) ?_
    intro key
    refine Triple.bind ih ?_
    intro jobs
    exact Triple.pure fun t ht => ht

theorem acceptCreate_succeeds (operation : String) (e : StartedInstance) :
    Triple (Serves 0) (accept operation (.create e)) (fun _ _ => True) (fun _ => False) := by
  intro t ⟨_, es, hes⟩
  obtain ⟨journal, happend, _⟩ := hes.append (.create e)
  unfold Action.run accept
  simp only [happend]
  trivial

/-- An instance can be started if the definition is known and keys are left for it. -/
theorem createInstance_succeeds {request : CreateRequest} {d : Definition} {event : StartEvent}
    (hfind : t.definitions.find? (fun d => d.key == request.definitionKey) = some d)
    (hevent : d.startEvent = some event)
    (h : t.Serves (2 + event.listenerJobTypes.length)) :
    Triple (fun t' => t' = t) (createInstance request) (fun _ _ => True) (fun _ => False) := by
  unfold createInstance
  refine Triple.get_bind ?_
  split
  · next hnone =>
    rw [hfind] at hnone
    cases hnone
  · next d' hfind' =>
    rw [hfind] at hfind'
    cases hfind'
    have hserves : t.Serves (event.listenerJobTypes.length + 1 + 1) := by
      rwa [Nat.add_comm 2] at h
    refine Triple.bind ((drawKey_succeeds (event.listenerJobTypes.length + 1)).pre
      fun t' ht => ht ▸ hserves) ?_
    intro instanceKey
    simp only [hevent]
    refine Triple.bind (drawKey_succeeds _) ?_
    intro elementKey
    refine Triple.bind (drawJobs_succeeds _) ?_
    intro jobs
    refine Triple.bind (M := fun _ => Serves 0) (Triple.pure fun t' ht => ht) ?_
    intro started
    exact Triple.bind (acceptCreate_succeeds _ _) fun _ => Triple.pure fun t' ht => ht

/-- The tokens of an instance that is there can be moved. -/
theorem modifyInstance_succeeds {m : ModifiedInstance} (h : t.Sound)
    (hthere : ∃ i ∈ t.state.instances, i.instanceKey = m.instanceKey) :
    Triple (fun t' => t' = t) (modifyInstance m.instanceKey m.terminatedKey m.activations)
      (fun _ _ => True) (fun _ => False) := by
  obtain ⟨i, hi, hkey⟩ := hthere
  have hsome : (t.state.instance? m.instanceKey).isSome = true :=
    List.find?_isSome.2 ⟨i, hi, beq_iff_eq.2 hkey⟩
  obtain ⟨es, hes⟩ := h.recorded
  obtain ⟨journal, happend, _⟩ := hes.journal.append (.modify m)
  have happly : t.state.apply (.modify m) = .ok (t.state.modify m) := if_pos hsome
  unfold modifyInstance
  refine Triple.get_bind ?_
  rw [if_pos hsome]
  intro t' ht
  subst ht
  unfold Action.run accept
  simp only [happend, happly]

end TargetEngine
end ProcessMigration
