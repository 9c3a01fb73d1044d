import Mathlib.Data.List.Nodup
import ProcessMigration.Proofs.JournalText
import ProcessMigration.Proofs.TargetKeys

/-!
# The state of the target engine

What holds in every state of the target engine: instances and jobs have keys of their own, a job
that waits belongs to an instance with the same variables and waits on an element instance that is
not terminated yet, and all jobs of an instance wait on the same element instance.

* `TargetState.Sound` is this invariant; `Sound.create`, `Sound.modify` and `Sound.handOut` are its
  steps;
* `TargetState.Alike`: two states differ in keys, hand-outs and variables only;
* `TargetState.Alike.addAll`: entries that differ in variables only lead to such states;
* `TargetState.Alike.sound`: the invariant outlasts a new reading of the journal.
-/

namespace ProcessMigration

/-- The id of the source instance that an instance stands for. -/
def TargetInstance.legacyId? (i : TargetInstance) : Option String := legacyIdOf i.vars

/-- An instance without variables but for the id of its source instance. -/
def TargetInstance.bare (i : TargetInstance) : TargetInstance :=
  { i with vars := bareVariables i.vars, activeElements := i.activeElements.map Activation.bare }

/-- A job without variables but for the id of its source instance. -/
def Job.bare (j : Job) : Job := { j with vars := bareVariables j.vars }

/-- The instance has received activations, or an element instance of it was terminated. -/
def TargetInstance.Moved (i : TargetInstance) : Prop := i.activeElements ≠ [] ∨ i.terminated ≠ []

/-- The job waits at this instance. -/
structure Job.WaitsAt (j : Job) (i : TargetInstance) : Prop where
  instanceKey : j.instanceKey = i.instanceKey
  legacyId? : j.legacyId? = i.legacyId?
  element : j.elementInstanceKey ∉ i.terminated

/-- What moves the instance of a job off the element instance on which the job waits. -/
def Job.modification (j : Job) (activations : List Activation) : ModifiedInstance :=
  ⟨j.instanceKey, j.elementInstanceKey, activations⟩

namespace TargetState

variable {s s' t : TargetState}

/-! ## The invariant -/

/-- What holds in every state of the target engine. -/
structure Sound (s : TargetState) : Prop where
  keys : s.keys.Within
  instanceKeys : (s.instances.map (·.instanceKey)).Nodup
  jobKeys : (s.outstanding.map (·.key)).Nodup
  instancesPassed : ∀ i ∈ s.instances, s.keys.Passed i.instanceKey
  jobsPassed : ∀ j ∈ s.outstanding, s.keys.Passed j.key
  handedOutPassed : ∀ key ∈ s.handedOut, s.keys.Passed key
  waits : ∀ j ∈ s.outstanding, ∃ i ∈ s.instances, j.WaitsAt i
  oneElement : ∀ j ∈ s.outstanding, ∀ j' ∈ s.outstanding, j.instanceKey = j'.instanceKey →
    j.elementInstanceKey = j'.elementInstanceKey

/-- The state with an allocator in another condition. -/
def withKeys (s : TargetState) (keys : KeyAllocator) : TargetState := { s with keys }

/-- Instances with the same key are the same. -/
theorem Sound.eq_of_key (h : s.Sound) {i i' : TargetInstance} (hi : i ∈ s.instances)
    (hi' : i' ∈ s.instances) (hkey : i.instanceKey = i'.instanceKey) : i = i' :=
  List.inj_on_of_nodup_map h.instanceKeys hi hi' hkey

/-- Keys that were drawn in vain change nothing. -/
theorem Sound.withKeys (h : s.Sound) {a : KeyAllocator} {keys : List Int}
    (hdraws : s.keys.Draws a keys) : (s.withKeys a).Sound where
  keys := hdraws.within h.keys
  instanceKeys := h.instanceKeys
  jobKeys := h.jobKeys
  instancesPassed i hi := hdraws.keepsPassed (h.instancesPassed i hi)
  jobsPassed j hj := hdraws.keepsPassed (h.jobsPassed j hj)
  handedOutPassed key hkey := hdraws.keepsPassed (h.handedOutPassed key hkey)
  waits := h.waits
  oneElement := h.oneElement

/-! ## Starting an instance -/

/-- The instance that an entry starts. -/
def instanceOf (e : StartedInstance) : TargetInstance :=
  ⟨e.instanceKey, e.definitionKey, e.businessId, e.vars, [], []⟩

theorem mem_jobsOf {e : StartedInstance} {j : Job} (h : j ∈ jobsOf e) :
    j.WaitsAt (instanceOf e) ∧
      j.elementInstanceKey = e.startElementInstanceKey.getD e.instanceKey ∧
      j.key ∈ e.jobs.map (·.key) := by
  obtain ⟨job, hjob, rfl⟩ := List.mem_map.1 h
  exact ⟨⟨rfl, rfl, List.not_mem_nil⟩, rfl, List.mem_map_of_mem hjob⟩

theorem exists_mem_jobsOf {e : StartedInstance} {type : String}
    (h : type ∈ e.jobs.map (·.jobType)) : ∃ j ∈ jobsOf e, j.jobType = type := by
  obtain ⟨job, hjob, htype⟩ := List.mem_map.1 h
  exact ⟨_, List.mem_map_of_mem hjob, htype⟩

theorem keys_jobsOf (e : StartedInstance) : (jobsOf e).map (·.key) = e.jobs.map (·.key) := by
  unfold jobsOf
  rw [List.map_map]
  rfl

theorem instanceKey_mem_keysOf (e : StartedInstance) : e.instanceKey ∈ keysOf e := by
  simp [keysOf]

theorem jobKey_mem_keysOf {e : StartedInstance} {key : Int} (h : key ∈ e.jobs.map (·.key)) :
    key ∈ keysOf e :=
  List.mem_append_right _ h

/-- With new keys a started instance stands behind the others. -/
theorem create_eq (h : s.Sound) {e : StartedInstance} {a : KeyAllocator}
    (hdraws : s.keys.Draws a (keysOf e)) :
    (s.withKeys a).create e =
      { s with
        keys := a
        instances := s.instances ++ [instanceOf e]
        outstanding := s.outstanding ++ jobsOf e } := by
  have hkeys : (keysOf e).foldl (fun a k => a.resumeAfter k) a = a :=
    KeyAllocator.resumeAfterAll_of_passed fun key hkey => (hdraws.fresh h.keys key hkey).2
  have hothers : s.instances.filter (fun j => j.instanceKey != e.instanceKey) = s.instances := by
    apply List.filter_eq_self.2
    intro i hi
    apply bne_iff_ne.2
    intro heq
    have hnew := (hdraws.fresh h.keys _ (instanceKey_mem_keysOf e)).1
    exact hnew (heq ▸ h.instancesPassed i hi)
  unfold create TargetState.withKeys
  simp only [hkeys, hothers]
  rfl

theorem Sound.create (h : s.Sound) {e : StartedInstance} {a : KeyAllocator}
    (hdraws : s.keys.Draws a (keysOf e)) : ((s.withKeys a).create e).Sound := by
  have hfresh := hdraws.fresh h.keys
  have hinstance := hfresh _ (instanceKey_mem_keysOf e)
  have hjob : ∀ j ∈ jobsOf e, ¬s.keys.Passed j.key ∧ a.Passed j.key := by
    intro j hj
    exact hfresh _ (jobKey_mem_keysOf (mem_jobsOf hj).2.2)
  rw [create_eq h hdraws]
  constructor
  case keys => exact hdraws.within h.keys
  case instanceKeys =>
    rw [List.map_append, List.map_singleton]
    refine List.nodup_append.2 ⟨h.instanceKeys, by simp, ?_⟩
    intro key hkey key' hnew heq
    obtain ⟨i, hi, rfl⟩ := List.mem_map.1 hkey
    have hsame : i.instanceKey = e.instanceKey := heq.trans (List.mem_singleton.1 hnew)
    exact hinstance.1 (hsame ▸ h.instancesPassed i hi)
  case jobKeys =>
    rw [List.map_append]
    refine List.nodup_append.2 ⟨h.jobKeys, ?_, ?_⟩
    · rw [keys_jobsOf]
      exact (List.nodup_append.1 (hdraws.nodup h.keys)).2.1
    · rintro key hkey _ hnew rfl
      obtain ⟨j, hj, rfl⟩ := List.mem_map.1 hkey
      obtain ⟨j', hj', heq⟩ := List.mem_map.1 hnew
      exact (hjob j' hj').1 (heq ▸ h.jobsPassed j hj)
  case instancesPassed =>
    intro i hi
    rcases List.mem_append.1 hi with hi | hi
    · exact hdraws.keepsPassed (h.instancesPassed i hi)
    · rw [List.mem_singleton.1 hi]
      exact hinstance.2
  case jobsPassed =>
    intro j hj
    rcases List.mem_append.1 hj with hj | hj
    · exact hdraws.keepsPassed (h.jobsPassed j hj)
    · exact (hjob j hj).2
  case handedOutPassed => exact fun key hkey => hdraws.keepsPassed (h.handedOutPassed key hkey)
  case waits =>
    intro j hj
    rcases List.mem_append.1 hj with hj | hj
    · obtain ⟨i, hi, hwaits⟩ := h.waits j hj
      exact ⟨i, List.mem_append_left _ hi, hwaits⟩
    · exact ⟨_, List.mem_append_right _ List.mem_cons_self, (mem_jobsOf hj).1⟩
  case oneElement =>
    -- a job that waited before belongs to an instance with another key
    have hother : ∀ j ∈ s.outstanding, ∀ j' ∈ jobsOf e, j.instanceKey ≠ j'.instanceKey := by
      intro j hj j' hj' heq
      obtain ⟨i, hi, hwaits⟩ := h.waits j hj
      have hkey : i.instanceKey = e.instanceKey :=
        hwaits.instanceKey.symm.trans (heq.trans (mem_jobsOf hj').1.instanceKey)
      exact hinstance.1 (hkey ▸ h.instancesPassed i hi)
    intro j hj j' hj' heq
    rcases List.mem_append.1 hj with hj | hj <;> rcases List.mem_append.1 hj' with hj' | hj'
    · exact h.oneElement j hj j' hj' heq
    · exact absurd heq (hother j hj j' hj')
    · exact absurd heq.symm (hother j' hj' j hj)
    · rw [(mem_jobsOf hj).2.1, (mem_jobsOf hj').2.1]

/-! ## Moving tokens and handing out jobs -/

/-- What an instance becomes when the tokens of an instance are moved. -/
def afterModify (m : ModifiedInstance) (i : TargetInstance) : TargetInstance :=
  if i.instanceKey == m.instanceKey then moved m i else i

@[simp] theorem instanceKey_afterModify (m : ModifiedInstance) (i : TargetInstance) :
    (afterModify m i).instanceKey = i.instanceKey := by
  unfold afterModify
  split <;> rfl

@[simp] theorem legacyId?_afterModify (m : ModifiedInstance) (i : TargetInstance) :
    (afterModify m i).legacyId? = i.legacyId? := by
  unfold afterModify
  split <;> rfl

theorem afterModify_of_ne {m : ModifiedInstance} {i : TargetInstance}
    (h : i.instanceKey ≠ m.instanceKey) : afterModify m i = i :=
  if_neg (by simpa using h)

theorem mem_modify {m : ModifiedInstance} {i : TargetInstance} (hi : i ∈ s.instances) :
    afterModify m i ∈ (s.modify m).instances :=
  List.mem_map_of_mem hi

theorem exists_of_mem_modify {m : ModifiedInstance} {i : TargetInstance}
    (hi : i ∈ (s.modify m).instances) : ∃ i' ∈ s.instances, afterModify m i' = i :=
  List.mem_map.1 hi

theorem mem_outstanding_modify {m : ModifiedInstance} {j : Job} :
    j ∈ (s.modify m).outstanding ↔ j ∈ s.outstanding ∧ waitsOn m j = false := by
  unfold modify
  rw [List.mem_filter, Bool.not_eq_true']

theorem waitsOn_eq_false {m : ModifiedInstance} {j : Job} :
    waitsOn m j = false ↔
      (j.instanceKey = m.instanceKey → j.elementInstanceKey ≠ m.terminatedKey) := by
  unfold waitsOn
  rw [Bool.and_eq_false_iff, beq_eq_false_iff_ne, beq_eq_false_iff_ne]
  by_cases h : j.instanceKey = m.instanceKey <;> simp [h]

theorem Sound.modify (h : s.Sound) (m : ModifiedInstance) : (s.modify m).Sound := by
  have hkeys : (s.modify m).instances.map (·.instanceKey) = s.instances.map (·.instanceKey) := by
    show (s.instances.map (afterModify m)).map _ = _
    rw [List.map_map]
    exact List.map_congr_left fun i _ => instanceKey_afterModify m i
  constructor
  case keys => exact h.keys
  case instanceKeys =>
    rw [hkeys]
    exact h.instanceKeys
  case jobKeys => exact (List.filter_sublist.map _).nodup h.jobKeys
  case instancesPassed =>
    intro i hi
    obtain ⟨i', hi', rfl⟩ := List.mem_map.1 hi
    show s.keys.Passed (afterModify m i').instanceKey
    rw [instanceKey_afterModify]
    exact h.instancesPassed i' hi'
  case jobsPassed => exact fun j hj => h.jobsPassed j (mem_outstanding_modify.1 hj).1
  case handedOutPassed => exact h.handedOutPassed
  case waits =>
    intro j hj
    obtain ⟨hj, hleft⟩ := mem_outstanding_modify.1 hj
    obtain ⟨i, hi, hwaits⟩ := h.waits j hj
    refine ⟨afterModify m i, mem_modify hi, ?_, ?_, ?_⟩
    · rw [instanceKey_afterModify]
      exact hwaits.instanceKey
    · rw [legacyId?_afterModify]
      exact hwaits.legacyId?
    · unfold afterModify
      split
      · next hsame =>
        -- of the jobs of the moved instance those at the terminated element are gone
        have hkey : j.instanceKey = m.instanceKey := hwaits.instanceKey.trans (by simpa using hsame)
        intro hmem
        rcases List.mem_append.1 hmem with hmem | hmem
        · exact hwaits.element hmem
        · exact waitsOn_eq_false.1 hleft hkey (List.mem_singleton.1 hmem)
      · exact hwaits.element
  case oneElement =>
    intro j hj j' hj'
    exact h.oneElement j (mem_outstanding_modify.1 hj).1 j' (mem_outstanding_modify.1 hj').1

/-- The state after jobs were handed out. -/
def handOut (s : TargetState) (jobs : List Job) : TargetState :=
  { s with handedOut := s.handedOut ++ jobs.map (·.key) }

theorem Sound.handOut (h : s.Sound) {jobs : List Job} (hjobs : ∀ j ∈ jobs, j ∈ s.outstanding) :
    (s.handOut jobs).Sound where
  keys := h.keys
  instanceKeys := h.instanceKeys
  jobKeys := h.jobKeys
  instancesPassed := h.instancesPassed
  jobsPassed := h.jobsPassed
  handedOutPassed key hkey := by
    rcases List.mem_append.1 hkey with hkey | hkey
    · exact h.handedOutPassed key hkey
    · obtain ⟨j, hj, rfl⟩ := List.mem_map.1 hkey
      exact h.jobsPassed j (hjobs j hj)
  waits := h.waits
  oneElement := h.oneElement

/-! ## States that differ in variables -/

/-- Two states differ in keys, hand-outs and variables only; of the variables the ids of the source
instances are the same. -/
structure Alike (s s' : TargetState) : Prop where
  instances : s.instances.map TargetInstance.bare = s'.instances.map TargetInstance.bare
  outstanding : s.outstanding.map Job.bare = s'.outstanding.map Job.bare

theorem Alike.symm (h : s.Alike s') : s'.Alike s := ⟨h.instances.symm, h.outstanding.symm⟩

theorem Alike.trans (h : s.Alike s') (h' : s'.Alike t) : s.Alike t :=
  ⟨h.instances.trans h'.instances, h.outstanding.trans h'.outstanding⟩

theorem Alike.exists_instance (h : s.Alike s') {i : TargetInstance} (hi : i ∈ s'.instances) :
    ∃ i' ∈ s.instances, i'.instanceKey = i.instanceKey ∧ i'.legacyId? = i.legacyId? ∧
      i'.terminated = i.terminated ∧ (i'.Moved ↔ i.Moved) := by
  have hmem : i.bare ∈ s.instances.map TargetInstance.bare :=
    h.instances ▸ List.mem_map_of_mem hi
  obtain ⟨i', hi', heq⟩ := List.mem_map.1 hmem
  have hkey : i'.bare.instanceKey = i.bare.instanceKey := congrArg TargetInstance.instanceKey heq
  have hterminated : i'.bare.terminated = i.bare.terminated := congrArg _ heq
  refine ⟨i', hi', hkey, ?_, hterminated, ?_⟩
  · exact bareVariables_eq_iff.1 (congrArg TargetInstance.vars heq)
  · have hactive : (i'.activeElements.map Activation.bare) = i.activeElements.map Activation.bare :=
      congrArg TargetInstance.activeElements heq
    have hnil : i'.activeElements = [] ↔ i.activeElements = [] := by
      rw [← List.map_eq_nil_iff (f := Activation.bare), hactive, List.map_eq_nil_iff]
    unfold TargetInstance.Moved
    rw [show i'.terminated = i.terminated from hterminated, ne_eq, hnil]

theorem Alike.exists_job (h : s.Alike s') {j : Job} (hj : j ∈ s'.outstanding) :
    ∃ j' ∈ s.outstanding, j'.key = j.key ∧ j'.jobType = j.jobType ∧
      j'.instanceKey = j.instanceKey ∧ j'.elementInstanceKey = j.elementInstanceKey ∧
      j'.legacyId? = j.legacyId? := by
  have hmem : j.bare ∈ s.outstanding.map Job.bare := h.outstanding ▸ List.mem_map_of_mem hj
  obtain ⟨j', hj', heq⟩ := List.mem_map.1 hmem
  have hkey : j'.bare.key = j.bare.key := congrArg _ heq
  have htype : j'.bare.jobType = j.bare.jobType := congrArg _ heq
  have hinstance : j'.bare.instanceKey = j.bare.instanceKey := congrArg _ heq
  have helement : j'.bare.elementInstanceKey = j.bare.elementInstanceKey := congrArg _ heq
  have hvars : j'.bare.vars = j.bare.vars := congrArg _ heq
  exact ⟨j', hj', hkey, htype, hinstance, helement, bareVariables_eq_iff.1 hvars⟩

theorem Alike.instanceKeys (h : s.Alike s') :
    s'.instances.map (·.instanceKey) = s.instances.map (·.instanceKey) := by
  have hmap := congrArg (List.map TargetInstance.instanceKey) h.instances
  rw [List.map_map, List.map_map] at hmap
  exact hmap.symm

theorem Alike.outstandingKeys (h : s.Alike s') :
    s'.outstanding.map (·.key) = s.outstanding.map (·.key) := by
  have hmap := congrArg (List.map Job.key) h.outstanding
  rw [List.map_map, List.map_map] at hmap
  exact hmap.symm

/-- The invariant outlasts a change of keys, hand-outs and variables. -/
theorem Alike.sound (h : s.Alike s') (hs : s.Sound) (hkeys : s'.keys.Within)
    (hinstances : ∀ i ∈ s'.instances, s'.keys.Passed i.instanceKey)
    (hjobs : ∀ j ∈ s'.outstanding, s'.keys.Passed j.key) (hhanded : s'.handedOut = []) :
    s'.Sound where
  keys := hkeys
  instanceKeys := by
    rw [h.instanceKeys]
    exact hs.instanceKeys
  jobKeys := by
    rw [h.outstandingKeys]
    exact hs.jobKeys
  instancesPassed := hinstances
  jobsPassed := hjobs
  handedOutPassed key hkey := by
    rw [hhanded] at hkey
    cases hkey
  waits j hj := by
    obtain ⟨j', hj', _, _, hinstance, helement, hlegacy⟩ := h.exists_job hj
    obtain ⟨i', hi', hwaits⟩ := hs.waits j' hj'
    obtain ⟨i, hi, hkey, hid, hterminated, _⟩ := h.symm.exists_instance hi'
    refine ⟨i, hi, ?_, ?_, ?_⟩
    · rw [hkey, ← hwaits.instanceKey, hinstance]
    · rw [hid, ← hwaits.legacyId?, hlegacy]
    · rw [hterminated, ← helement]
      exact hwaits.element
  oneElement j hj j' hj' hkey := by
    obtain ⟨k, hk, _, _, hinstance, helement, _⟩ := h.exists_job hj
    obtain ⟨k', hk', _, _, hinstance', helement', _⟩ := h.exists_job hj'
    rw [← helement, ← helement']
    exact hs.oneElement k hk k' hk' (by rw [hinstance, hinstance', hkey])

/-! ## Entries -/

/-- Adds an entry, as if it could be added. -/
def add (s : TargetState) : JournalEntry → TargetState
  | .create e => s.create e
  | .modify m => s.modify m

theorem eq_add_of_apply {e : JournalEntry} (h : s.apply e = .ok t) : t = s.add e := by
  unfold apply at h
  cases e with
  | create e =>
    cases h
    rfl
  | modify m =>
    simp only at h
    split at h
    · cases h
      rfl
    · cases h

/-- Adds entries one after the other. -/
def addAll (s : TargetState) (es : List JournalEntry) : TargetState := es.foldl add s

theorem bare_filter (key : Int) (l : List TargetInstance) :
    (l.filter fun j => j.instanceKey != key).map TargetInstance.bare =
      (l.map TargetInstance.bare).filter fun j => j.instanceKey != key := by
  rw [List.filter_map]
  rfl

theorem bare_afterModify (key terminated : Int) (as : List Activation) (l : List TargetInstance) :
    (l.map (afterModify ⟨key, terminated, as⟩)).map TargetInstance.bare =
      (l.map TargetInstance.bare).map
        (afterModify ⟨key, terminated, as.map Activation.bare⟩) := by
  rw [List.map_map, List.map_map]
  apply List.map_congr_left
  intro i _
  show TargetInstance.bare (if _ then _ else _) = if _ then _ else _
  rw [show i.bare.instanceKey = i.instanceKey from rfl]
  split
  · simp [TargetInstance.bare, moved]
  · rfl

theorem bare_notWaiting (key terminated : Int) (as : List Activation) (l : List Job) :
    (l.filter fun j => !waitsOn ⟨key, terminated, as⟩ j).map Job.bare =
      (l.map Job.bare).filter fun j => !waitsOn ⟨key, terminated, []⟩ j := by
  rw [List.filter_map]
  rfl

theorem Alike.create (h : s.Alike s') (e : StartedInstance) {vars vars' : Variables}
    (hvars : bareVariables vars = bareVariables vars') :
    (s.create { e with vars }).Alike (s'.create { e with vars := vars' }) where
  instances := by
    show (_ ++ [_]).map _ = (_ ++ [_]).map _
    rw [List.map_append, List.map_append, bare_filter, bare_filter, h.instances]
    simp [TargetInstance.bare, hvars]
  outstanding := by
    show (s.outstanding ++ jobsOf _).map _ = (s'.outstanding ++ jobsOf _).map _
    rw [List.map_append, List.map_append, h.outstanding]
    simp [jobsOf, Job.bare, hvars]

theorem Alike.modify (h : s.Alike s') (key terminated : Int) {as as' : List Activation}
    (has : as.map Activation.bare = as'.map Activation.bare) :
    (s.modify ⟨key, terminated, as⟩).Alike (s'.modify ⟨key, terminated, as'⟩) where
  instances := by
    show (s.instances.map (afterModify ⟨key, terminated, as⟩)).map _ =
      (s'.instances.map (afterModify ⟨key, terminated, as'⟩)).map _
    rw [bare_afterModify, bare_afterModify, h.instances, has]
  outstanding := by
    show (s.outstanding.filter _).map _ = (s'.outstanding.filter _).map _
    rw [bare_notWaiting, bare_notWaiting, h.outstanding]

theorem Alike.add (h : s.Alike s') {e e' : JournalEntry} (he : e.bare = e'.bare) :
    (s.add e).Alike (s'.add e') := by
  cases e with
  | create e =>
    cases e' with
    | modify m => cases he
    | create e' =>
      obtain ⟨k, d, b, tenant, element, elementKey, jobs, vars⟩ := e
      obtain ⟨k', d', b', tenant', element', elementKey', jobs', vars'⟩ := e'
      simp only [JournalEntry.bare, JournalEntry.create.injEq, StartedInstance.mk.injEq] at he
      obtain ⟨rfl, rfl, rfl, rfl, rfl, rfl, rfl, hvars⟩ := he
      exact h.create ⟨k, d, b, tenant, element, elementKey, jobs, vars⟩ hvars
  | modify m =>
    cases e' with
    | create e => cases he
    | modify m' =>
      obtain ⟨k, terminated, activations⟩ := m
      obtain ⟨k', terminated', activations'⟩ := m'
      simp only [JournalEntry.bare, JournalEntry.modify.injEq, ModifiedInstance.mk.injEq] at he
      obtain ⟨rfl, rfl, hactivations⟩ := he
      exact h.modify k terminated hactivations

/-- Entries that differ in variables only lead to states that do so. -/
theorem Alike.addAll (h : s.Alike s') {es es' : List JournalEntry}
    (hes : List.Forall₂ (fun e e' => e'.bare = e.bare) es es') :
    (s.addAll es).Alike (s'.addAll es') := by
  induction hes generalizing s s' with
  | nil => exact h
  | cons he _ ih => exact ih (h.add he.symm)

end TargetState
end ProcessMigration
