import ProcessMigration.Proofs.Ownership
import ProcessMigration.Proofs.Repetition

/-!
# What a pass owes to the instances

A pass owes activations to every instance that it starts, and to those that earlier passes have started
and left behind, as long as the source instance is there and can still be carried over. It owes
nothing to any other instance, and leaves these alone.

* `Outset` is what a pass sets out from; an instance is `Due` when its key is mapped to an id that
  something is prepared for;
* an instance is `Cared` for when it is due and either `Awaits` its hand-over or is `Served`;
* `Orderly` is the invariant: whatever is owed is cared for, what is not owed is untouched, jobs that
  were dealt with and wait on belong to instances that nothing is owed to;
* `Orderly.grown`, `Orderly.started`, `Orderly.gained`, `Orderly.arrived`, `Orderly.passedOver` and
  `Orderly.modified` are its steps;
* `Orderly.nothingPending`: once all jobs were handed out and dealt with, nothing is left to be given up.
-/

namespace ProcessMigration

/-- What a pass sets out from. -/
structure Outset where
  settings : MigrationSettings
  pipeline : Pipeline
  world : Workspace
  /-- The number of commands that were sent before. -/
  sent : Nat

namespace Outset

variable (o : Outset)

/-- The state of the target engine at the beginning. -/
def target : TargetState := o.world.target.state

/-- This is prepared for an id. -/
def Prepares (id : String) (prepared : Prepared) : Prop :=
  o.world.Prepares o.settings o.pipeline id prepared

/-- The records of a workspace give the key to an id that this is prepared for. -/
def Due (w : Workspace) (key : Int) (prepared : Prepared) : Prop :=
  ∃ id, w.MapsTo id key ∧ o.Prepares id prepared

/-- The key is that of an instance that was there at the beginning. -/
def Knows (key : Int) : Prop := ∃ i ∈ o.target.instances, i.instanceKey = key

/-- A job of the migrator waits on this element instance of this instance. -/
def Awaits (s : TargetState) (key element : Int) : Prop :=
  ∃ j ∈ s.outstanding, j.jobType = o.settings.jobType ∧ j.instanceKey = key ∧
    j.elementInstanceKey = element

/-- The instance has been moved off this element instance, on which a job of it was waiting, with the
activations that were prepared; no job of it waits any more. -/
structure Served (d : Interrupted Workspace) (key element : Int) (prepared : Prepared) : Prop where
  command : ∃ c ∈ d.sent.drop o.sent, c.command = .modify key element prepared.activations
  received : ∃ i ∈ d.target.state.instances, i.instanceKey = key ∧ element ∈ i.terminated ∧
    prepared.activations <:+: i.activeElements
  job : ∃ j ∈ d.handedOut, j.instanceKey = key ∧ j.elementInstanceKey = element
  noJob : ∀ j ∈ d.target.state.outstanding, j.instanceKey ≠ key

/-- What is owed to the instance will be given to it, or has been given. -/
def Cared (d : Interrupted Workspace) (key element : Int) : Prop :=
  ∃ prepared, o.Due d.world key prepared ∧
    (o.Awaits d.target.state key element ∨ o.Served d key element prepared)

/-- A started instance whose record is still to be written. -/
structure Loose (d : Interrupted Workspace) (id : String) (key : Int) : Prop where
  carries : d.target.state.Carries key id
  own : key ∉ d.startedByOthers
  unknown : ¬o.Knows key
  awaits : ∃ element, o.Awaits d.target.state key element
  notHandedOut : ∀ j ∈ d.target.state.outstanding, j.instanceKey = key →
    j.key ∉ d.target.state.handedOut

end Outset

/-- Where a pass is: a started instance may still be without a record, some jobs may be in hand, and
some keys of jobs were seen. -/
structure Stage where
  loose : Option (String × Int) := none
  todo : List Job := []
  seen : List Int := []

/-- The invariant of a pass. -/
structure Orderly (o : Outset) (stage : Stage) (d : Interrupted Workspace) (pending : Pending) :
    Prop where
  outset : o.world.target.Sound
  owned : Owned o.world.target.definitions d pending
  sameSource : d.world.source = o.world.source
  sentBefore : o.sent ≤ d.sent.length
  mapsOld : ∀ id key, o.world.MapsTo id key → d.world.MapsTo id key
  mapsNew : ∀ id key, d.world.MapsTo id key → o.Knows key → o.world.MapsTo id key
  stay : ∀ key, o.Knows key → ∃ i ∈ d.target.state.instances, i.instanceKey = key
  untouched : ∀ i ∈ o.target.instances, (∀ p, ¬o.Due o.world i.instanceKey p) →
    i ∈ d.target.state.instances
  waiting : ∀ j ∈ o.target.outstanding, (∀ p, ¬o.Due o.world j.instanceKey p) →
    j ∈ d.target.state.outstanding
  dealtWith : ∀ j ∈ d.target.state.outstanding, j.jobType = o.settings.jobType →
    j.key ∈ d.target.state.handedOut → j ∉ stage.todo → ∀ p, ¬o.Due d.world j.instanceKey p
  inHand : ∀ j ∈ stage.todo, j ∈ d.handedOut ∧ ∀ j' ∈ d.target.state.outstanding,
    j'.instanceKey = j.instanceKey → j'.elementInstanceKey = j.elementInstanceKey
  seen : ∀ key ∈ stage.seen, key ∈ d.target.state.handedOut
  loose : ∀ id key, stage.loose = some (id, key) → o.Loose d id key
  created : ∀ i ∈ d.target.state.instances, ¬o.Knows i.instanceKey →
    i.instanceKey ∉ d.startedByOthers → (∀ id, stage.loose ≠ some (id, i.instanceKey)) →
    ∃ element, o.Cared d i.instanceKey element
  left : ∀ j ∈ o.target.outstanding, j.jobType = o.settings.jobType →
    (∃ p, o.Due o.world j.instanceKey p) → o.Cared d j.instanceKey j.elementInstanceKey
  pending : ∀ p ∈ pending.entries,
    (∃ prepared, o.Prepares p.2.legacyId prepared ∧ p.2.activations = prepared.activations) ∧
      ∃ element, o.Awaits d.target.state p.1 element

/-- Instances may have come along, with jobs that were not handed out; nothing else has changed. -/
structure Grows (d d' : Interrupted Workspace) : Prop where
  source : d'.world.source = d.world.source
  maps : ∀ id key, d'.world.MapsTo id key ↔ d.world.MapsTo id key
  instances : ∀ i ∈ d.target.state.instances, i ∈ d'.target.state.instances
  outstanding : ∀ j ∈ d.target.state.outstanding, j ∈ d'.target.state.outstanding
  newJobs : ∀ j ∈ d'.target.state.outstanding, j ∈ d.target.state.outstanding ∨
    (j.key ∉ d'.target.state.handedOut ∧
      ∀ i ∈ d.target.state.instances, i.instanceKey ≠ j.instanceKey)
  engineHandedOut : d'.target.state.handedOut = d.target.state.handedOut
  handedOut : d'.handedOut = d.handedOut
  sent : ∃ more, d'.sent = d.sent ++ more
  others : ∀ key ∈ d.startedByOthers, key ∈ d'.startedByOthers

namespace Outset

variable {o : Outset} {d d' : Interrupted Workspace} {key element : Int} {prepared : Prepared}

theorem Due.grown (h : o.Due d.world key prepared) (hg : Grows d d') :
    o.Due d'.world key prepared := by
  obtain ⟨id, hmaps, hprepares⟩ := h
  exact ⟨id, (hg.maps id key).2 hmaps, hprepares⟩

theorem not_due_grown (h : ∀ p, ¬o.Due d.world key p) (hg : Grows d d') (p : Prepared) :
    ¬o.Due d'.world key p := by
  rintro ⟨id, hmaps, hprepares⟩
  exact h p ⟨id, (hg.maps id key).1 hmaps, hprepares⟩

theorem Awaits.grown (h : o.Awaits d.target.state key element) (hg : Grows d d') :
    o.Awaits d'.target.state key element := by
  obtain ⟨j, hj, hwaits⟩ := h
  exact ⟨j, hg.outstanding j hj, hwaits⟩

theorem Served.grown (h : o.Served d key element prepared) (hg : Grows d d') :
    o.Served d' key element prepared := by
  obtain ⟨i, hi, hkey, hreceived⟩ := h.received
  constructor
  · obtain ⟨c, hc, hcommand⟩ := h.command
    obtain ⟨more, hmore⟩ := hg.sent
    refine ⟨c, ?_, hcommand⟩
    rw [hmore, List.drop_append]
    exact List.mem_append_left _ hc
  · exact ⟨i, hg.instances i hi, hkey, hreceived⟩
  · rw [hg.handedOut]
    exact h.job
  · intro j hj heq
    rcases hg.newJobs j hj with hold | ⟨_, hnew⟩
    · exact h.noJob j hold heq
    · exact hnew i hi (hkey.trans heq.symm)

theorem Cared.grown (h : o.Cared d key element) (hg : Grows d d') : o.Cared d' key element := by
  obtain ⟨prepared, hdue, hcared⟩ := h
  exact ⟨prepared, hdue.grown hg, hcared.imp (·.grown hg) (·.grown hg)⟩

theorem Loose.grown {id : String} (h : o.Loose d id key) (hg : Grows d d')
    (hown : key ∉ d'.startedByOthers) : o.Loose d' id key where
  carries := by
    obtain ⟨i, hi, hcarries⟩ := h.carries
    exact ⟨i, hg.instances i hi, hcarries⟩
  own := hown
  unknown := h.unknown
  awaits := by
    obtain ⟨element, hawaits⟩ := h.awaits
    exact ⟨element, hawaits.grown hg⟩
  notHandedOut j hj hkey := by
    rcases hg.newJobs j hj with hold | ⟨hnew, _⟩
    · rw [hg.engineHandedOut]
      exact h.notHandedOut j hold hkey
    · exact hnew

/-- Only one thing can be owed to an instance. -/
theorem Due.unique {definitions : List Definition} {pending : Pending}
    (h : Owned definitions d pending) {prepared' : Prepared} (hdue : o.Due d.world key prepared)
    (hdue' : o.Due d.world key prepared') : prepared = prepared' := by
  obtain ⟨id, hmaps, hprepares⟩ := hdue
  obtain ⟨id', hmaps', hprepares'⟩ := hdue'
  have hsame := h.carried_unique (h.mapped id key hmaps).1 (h.mapped id' key hmaps').1
  subst hsame
  exact hprepares.unique hprepares'

end Outset

/-! ## What grows -/

namespace Grows

variable {d : Interrupted Workspace} {t : TargetEngine} {request : CreateRequest}
  {e : StartedInstance}

theorem refl (d : Interrupted Workspace) : Grows d d :=
  ⟨rfl, fun _ _ => .rfl, fun _ h => h, fun _ h => h, fun _ h => .inl h, rfl, rfl,
    ⟨[], (List.append_nil _).symm⟩, fun _ h => h⟩

theorem coming (coming : List Incident) : Grows d { d with coming } := { refl d with }

theorem idle (ht : d.target.Idle t) : Grows d (d.withTarget t) := by
  obtain ⟨a, keys, _, rfl⟩ := ht
  exact { refl d with }

theorem started (hd : d.target.Sound) (hstarts : TargetEngine.Starts request e d.target t) :
    Grows d (d.withTarget t) where
  source := rfl
  maps _ _ := .rfl
  instances i hi := by
    show i ∈ t.state.instances
    rw [hstarts.instances hd]
    exact List.mem_append_left _ hi
  outstanding j hj := by
    show j ∈ t.state.outstanding
    rw [hstarts.outstanding hd]
    exact List.mem_append_left _ hj
  newJobs j hj := by
    have hj' : j ∈ t.state.outstanding := hj
    rw [hstarts.outstanding hd] at hj'
    refine (List.mem_append.1 hj').imp_right ?_
    intro hnew
    constructor
    · show j.key ∉ t.state.handedOut
      rw [hstarts.handedOut hd]
      exact hstarts.notHandedOut hd hnew
    · intro i hi heq
      exact hstarts.newKey hd hi (heq.trans (TargetState.mem_jobsOf hnew).1.instanceKey)
  engineHandedOut := hstarts.handedOut hd
  handedOut := rfl
  sent := ⟨[], (List.append_nil _).symm⟩
  others _ h := h

theorem joined (hd : d.target.Sound) (hstarts : TargetEngine.Starts request e d.target t) :
    Grows d (d.joinedBy t e.instanceKey) :=
  { started hd hstarts with others := fun _ h => List.mem_append_left _ h }

theorem send (c : Command) : Grows d (d.send c) := { refl d with sent := ⟨_, rfl⟩ }

theorem stored {db : Database} (halike : d.world.tables.MapsAlike d.world.database db) :
    Grows d (d.withDatabase db) :=
  { refl d with maps := halike }

end Grows

/-! ## Steps -/

namespace Orderly

variable {o : Outset} {stage : Stage} {d d' : Interrupted Workspace} {pending : Pending}
  {t : TargetEngine} {request : CreateRequest} {e : StartedInstance} {id : String} {key : Int}
  {prepared : Prepared}

/-- Where instances come along, they are those of others or still without a record. -/
theorem grown (h : Orderly o stage d pending) (hg : Grows d d')
    (howned : Owned o.world.target.definitions d' pending) {loose : Option (String × Int)}
    (hloose : ∀ id key, loose = some (id, key) → o.Loose d' id key)
    (hkeeps : ∀ l, stage.loose = some l → loose = some l)
    (hnew : ∀ i ∈ d'.target.state.instances, i ∈ d.target.state.instances ∨
      i.instanceKey ∈ d'.startedByOthers ∨ ∃ id, loose = some (id, i.instanceKey)) :
    Orderly o { stage with loose } d' pending where
  outset := h.outset
  owned := howned
  sameSource := hg.source.trans h.sameSource
  sentBefore := by
    obtain ⟨more, hmore⟩ := hg.sent
    rw [hmore, List.length_append]
    exact Nat.le_add_right_of_le h.sentBefore
  mapsOld id key hmaps := (hg.maps id key).2 (h.mapsOld id key hmaps)
  mapsNew id key hmaps := h.mapsNew id key ((hg.maps id key).1 hmaps)
  stay key hkey := by
    obtain ⟨i, hi, hikey⟩ := h.stay key hkey
    exact ⟨i, hg.instances i hi, hikey⟩
  untouched i hi hdue := hg.instances i (h.untouched i hi hdue)
  waiting j hj hdue := hg.outstanding j (h.waiting j hj hdue)
  dealtWith j hj htype hhanded htodo := by
    -- a job that is new has not been handed out yet
    rcases hg.newJobs j hj with hold | ⟨hnotHanded, _⟩
    · rw [hg.engineHandedOut] at hhanded
      exact Outset.not_due_grown (h.dealtWith j hold htype hhanded htodo) hg
    · exact absurd hhanded hnotHanded
  inHand j hj := by
    obtain ⟨hhanded, helement⟩ := h.inHand j hj
    refine ⟨hg.handedOut ▸ hhanded, ?_⟩
    intro j' hj' hkey
    rcases hg.newJobs j' hj' with hold | ⟨_, hunknown⟩
    · exact helement j' hold hkey
    · obtain ⟨i, hi, hikey, _⟩ := h.owned.handedOut j hhanded
      exact absurd (hikey.trans hkey.symm) (hunknown i hi)
  seen key hkey := by
    rw [hg.engineHandedOut]
    exact h.seen key hkey
  loose := hloose
  created i hi hunknown hothers hnotLoose := by
    -- a new instance is someone else's, or its record is still to be written
    rcases hnew i hi with hold | hother | ⟨id, hid⟩
    · have hnotLoose' : ∀ id, stage.loose ≠ some (id, i.instanceKey) := by
        intro id hid
        exact hnotLoose id (hkeeps _ hid)
      obtain ⟨element, hcared⟩ :=
        h.created i hold hunknown (fun hmem => hothers (hg.others _ hmem)) hnotLoose'
      exact ⟨element, hcared.grown hg⟩
    · exact absurd hother hothers
    · exact absurd hid (hnotLoose id)
  left j hj htype hdue := (h.left j hj htype hdue).grown hg
  pending p hp := by
    obtain ⟨hprepared, element, hawaits⟩ := h.pending p hp
    exact ⟨hprepared, element, hawaits.grown hg⟩

/-- Nothing comes along. -/
theorem kept (h : Orderly o stage d pending) (hg : Grows d d')
    (howned : Owned o.world.target.definitions d' pending)
    (hinstances : d'.target.state.instances = d.target.state.instances)
    (hothers : d'.startedByOthers = d.startedByOthers) : Orderly o stage d' pending := by
  refine h.grown hg howned ?_ (fun _ hl => hl) ?_
  · intro id key hloose
    have hold := h.loose id key hloose
    exact hold.grown hg (hothers ▸ hold.own)
  · intro i hi
    exact .inl (hinstances ▸ hi)

theorem idle (h : Orderly o stage d pending) (ht : d.target.Idle t) :
    Orderly o stage (d.withTarget t) pending := by
  have howned := h.owned.idle ht
  have hg := Grows.idle ht
  obtain ⟨a, keys, _, rfl⟩ := ht
  exact h.kept hg howned rfl rfl

/-- An instance of others owes its coming to them. -/
theorem joined (h : Orderly o stage d pending) (ht : t.Sound)
    (hstarts : TargetEngine.Starts request e d.target t) :
    Orderly o stage (d.joinedBy t e.instanceKey) pending := by
  have hd := h.owned.engine
  refine h.grown (Grows.joined hd hstarts) (h.owned.joined ht hstarts) ?_ (fun _ hl => hl) ?_
  · intro id key hloose
    have hold := h.loose id key hloose
    refine hold.grown (Grows.joined hd hstarts) ?_
    intro hmem
    rcases List.mem_append.1 hmem with hmem | hmem
    · exact hold.own hmem
    · obtain ⟨i, hi, hkey, _⟩ := hold.carries
      exact hstarts.newKey hd hi (hkey.trans (List.mem_singleton.1 hmem))
  · intro i hi
    have hi' : i ∈ t.state.instances := hi
    rw [hstarts.instances hd] at hi'
    refine (List.mem_append.1 hi').imp_right ?_
    intro hnew
    refine .inl ?_
    rw [List.mem_singleton.1 hnew]
    exact List.mem_append_right _ List.mem_cons_self

/-- Others and incidents do not disturb the invariant. -/
theorem stable (o : Outset) (stage : Stage) :
    Run.Stable Workspace.jobEngine fun s => Orderly o stage s.world s.pending :=
  Run.stable_of_starts (fun _ h => h.owned.engine)
    (fun _ coming h => h.kept (.coming coming) { h.owned with } rfl rfl)
    (fun _ _ h ht => h.idle ht) fun _ _ _ _ h ht hstarts => h.joined ht hstarts

/-- A started instance of the migrator is without a record for a moment. -/
theorem started (h : Orderly o {} d pending) (ht : t.Sound)
    (hstarts : TargetEngine.Starts request e d.target t)
    (hid : request.vars.get? legacyIdVariable = some (.string id))
    (htype : o.settings.jobType ∈ e.jobs.map (·.jobType)) :
    Orderly o { loose := some (id, e.instanceKey) } (d.withTarget t) pending := by
  have hd := h.owned.engine
  obtain ⟨hcarries, hown⟩ := h.owned.carries_started hstarts hid
  refine h.grown (Grows.started hd hstarts) (h.owned.started ht hstarts) ?_
    (fun _ hl => by cases hl) ?_
  · intro id' key hloose
    cases hloose
    refine ⟨hcarries, hown, ?_, ?_, ?_⟩
    · intro hknown
      obtain ⟨i, hi, hkey⟩ := h.stay _ hknown
      exact hstarts.newKey hd hi hkey
    · obtain ⟨job, hjob, hjobType⟩ := List.mem_map.1 htype
      obtain ⟨j, hj, hjType⟩ : ∃ j ∈ TargetState.jobsOf e, j.jobType = o.settings.jobType :=
        ⟨_, List.mem_map_of_mem hjob, hjobType⟩
      refine ⟨j.elementInstanceKey, j, ?_, hjType, (TargetState.mem_jobsOf hj).1.instanceKey, rfl⟩
      show j ∈ t.state.outstanding
      rw [hstarts.outstanding hd]
      exact List.mem_append_right _ hj
    · intro j hj hkey
      have hj' : j ∈ t.state.outstanding := hj
      rw [hstarts.outstanding hd] at hj'
      show j.key ∉ t.state.handedOut
      rw [hstarts.handedOut hd]
      rcases List.mem_append.1 hj' with hold | hnew
      · obtain ⟨i, hi, hwaits⟩ := hd.state.waits j hold
        exact absurd (hwaits.instanceKey.symm.trans hkey) (hstarts.newKey hd hi)
      · exact hstarts.notHandedOut hd hnew
  · intro i hi
    have hi' : i ∈ t.state.instances := hi
    rw [hstarts.instances hd] at hi'
    refine (List.mem_append.1 hi').imp_right ?_
    intro hnew
    refine .inr ⟨id, ?_⟩
    rw [List.mem_singleton.1 hnew]
    rfl

/-- The record of a started instance is written. -/
theorem gained (h : Orderly o { loose := some (id, key) } d pending) {db : Database}
    (hprepares : o.Prepares id prepared) (hkept : d.world.tables.IsKept db)
    (hgains : d.world.tables.Gains d.world.database db id key) :
    Orderly o {} (d.withDatabase db) pending := by
  have hloose := h.loose id key rfl
  have hcared : ∀ key' element, o.Cared d key' element →
      o.Cared (d.withDatabase db) key' element := by
    rintro key' element ⟨p, ⟨id', hmaps, hprepares'⟩, hcared⟩
    exact ⟨p, ⟨id', (hgains id' key').2 (.inl hmaps), hprepares'⟩,
      hcared.imp (fun hawaits => hawaits) fun hserved => { hserved with }⟩
  refine { h with
    owned := h.owned.gains hkept hgains hloose.carries hloose.own
    mapsOld := fun id' key' hmaps => (hgains id' key').2 (.inl (h.mapsOld id' key' hmaps))
    mapsNew := ?mapsNew
    dealtWith := ?dealtWith
    loose := fun _ _ h => by cases h
    created := ?created
    left := fun j hj htype hdue => hcared _ _ (h.left j hj htype hdue) }
  case mapsNew =>
    intro id' key' hmaps hknown
    rcases (hgains id' key').1 hmaps with hmaps | ⟨_, rfl⟩
    · exact h.mapsNew id' key' hmaps hknown
    · exact absurd hknown hloose.unknown
  case dealtWith =>
    rintro j hj htype hhanded htodo p ⟨id', hmaps, hprepares'⟩
    rcases (hgains id' _).1 hmaps with hmaps | ⟨_, hkey⟩
    · exact h.dealtWith j hj htype hhanded htodo p ⟨id', hmaps, hprepares'⟩
    · exact hloose.notHandedOut j hj hkey hhanded
  case created =>
    -- the instance with the new record is the one that was without
    intro i hi hunknown hothers _
    by_cases hkey : i.instanceKey = key
    · obtain ⟨element, hawaits⟩ := hloose.awaits
      rw [hkey]
      exact ⟨element, prepared, ⟨id, (hgains id key).2 (.inr ⟨rfl, rfl⟩), hprepares⟩, .inl hawaits⟩
    · obtain ⟨element, hold⟩ := h.created i hi hunknown hothers fun id' heq => by
        cases heq
        exact hkey rfl
      exact ⟨element, hcared _ _ hold⟩

/-- What a mapped instance waits for is noted. -/
theorem notes (h : Orderly o stage d pending) (hmaps : d.world.MapsTo id key)
    (hprepares : o.Prepares id prepared) {element : Int}
    (hawaits : o.Awaits d.target.state key element) :
    Orderly o stage d (pending.insert key ⟨id, prepared.activations⟩) := by
  refine { h with owned := h.owned.notes hmaps, pending := ?_}
  intro p hp
  rcases List.mem_append.1 hp with hp | hp
  · exact h.pending p (List.mem_filter.1 hp).1
  · rw [List.mem_singleton.1 hp]
    exact ⟨⟨prepared, hprepares, rfl⟩, element, hawaits⟩

/-- What waits can be taken out. -/
theorem forgets (h : Orderly o stage d pending) {pending' : Pending}
    (hsub : ∀ p ∈ pending'.entries, p ∈ pending.entries) : Orderly o stage d pending' :=
  { h with owned := h.owned.forgets hsub, pending := fun p hp => h.pending p (hsub p hp) }

/-- Jobs are handed out, and none of them has been before. -/
theorem arrived {seen seen' : List Int} (h : Orderly o { seen } d pending) (ht : t.Sound)
    {jobs : List Job}
    (hjobs : ∀ j ∈ jobs, j ∈ d.target.state.outstanding)
    (hstate : t.state = d.target.state.handOut jobs)
    (hdefinitions : t.definitions = d.target.definitions)
    (hseen : ∀ key ∈ seen', key ∈ seen ∨ key ∈ jobs.map (·.key)) :
    Orderly o { todo := jobs, seen := seen' } ((d.withTarget t).arrived jobs) pending := by
  have howned := h.owned.arrived ht hjobs hstate hdefinitions
  obtain ⟨definitions, journal, state⟩ := t
  obtain rfl : state = d.target.state.handOut jobs := hstate
  have hcared : ∀ key element, o.Cared d key element → o.Cared ((d.withTarget
      ⟨definitions, journal, d.target.state.handOut jobs⟩).arrived jobs) key element := by
    rintro key element ⟨p, hdue, hcared⟩
    refine ⟨p, hdue, hcared.imp (fun hawaits => hawaits) ?_⟩
    intro hserved
    obtain ⟨j, hj, hjob⟩ := hserved.job
    exact { hserved with job := ⟨j, List.mem_append_left _ hj, hjob⟩ }
  refine { h with
    owned := howned
    dealtWith := ?dealtWith
    inHand := ?inHand
    seen := ?seen
    loose := fun _ _ h => by cases h
    created := ?created
    left := fun j hj htype hdue => hcared _ _ (h.left j hj htype hdue) }
  case dealtWith =>
    intro j hj htype hhanded htodo
    rcases List.mem_append.1 hhanded with hold | hnew
    · exact h.dealtWith j hj htype hold List.not_mem_nil
    · -- the job with this key is in hand
      obtain ⟨j', hj', hkey⟩ := List.mem_map.1 hnew
      have hsame := List.inj_on_of_nodup_map h.owned.engine.state.jobKeys (hjobs j' hj') hj hkey
      exact absurd (hsame ▸ hj') htodo
  case inHand =>
    intro j hj
    refine ⟨List.mem_append_right _ hj, ?_⟩
    intro j' hj' hkey
    exact h.owned.engine.state.oneElement j' hj' j (hjobs j hj) hkey
  case seen =>
    intro key hkey
    rcases hseen key hkey with hold | hnew
    · exact List.mem_append_left _ (h.seen key hold)
    · exact List.mem_append_right _ hnew
  case created =>
    intro i hi hunknown hothers _
    obtain ⟨element, hold⟩ := h.created i hi hunknown hothers fun _ h => by cases h
    exact ⟨element, hcared _ _ hold⟩

/-- A job to whose instance nothing is owed is passed over. -/
theorem passedOver {job : Job} {rest : List Job} {seen : List Int}
    (h : Orderly o { todo := job :: rest, seen } d pending)
    (hnot : ∀ p, ¬o.Due d.world job.instanceKey p) : Orderly o { todo := rest, seen } d pending := by
  refine { h with
    dealtWith := ?_
    inHand := fun j hj => h.inHand j (List.mem_cons_of_mem _ hj) }
  intro j hj htype hhanded htodo
  by_cases hsame : j = job
  · rw [hsame]
    exact hnot
  · exact h.dealtWith j hj htype hhanded fun hmem => (List.mem_cons.1 hmem).elim hsame htodo

/-! ## Moving an instance -/

/-- What an instance received it keeps. -/
theorem served_modified {m : ModifiedInstance} {key element : Int} (h : o.Served d key element prepared)
    (hstate : t.state = d.target.state.modify m) :
    o.Served (d.withTarget t) key element prepared := by
  obtain ⟨definitions, journal, state⟩ := t
  obtain rfl : state = d.target.state.modify m := hstate
  obtain ⟨i, hi, hkey, hterminated, hactive⟩ := h.received
  refine { h with
    received := ⟨_, TargetState.mem_modify hi, ?_, ?_, ?_⟩
    noJob := fun j hj => h.noJob j (TargetState.mem_outstanding_modify.1 hj).1 }
  · rw [TargetState.instanceKey_afterModify]
    exact hkey
  · unfold TargetState.afterModify
    split
    · exact List.mem_append_left _ hterminated
    · exact hterminated
  · unfold TargetState.afterModify
    split
    · exact hactive.trans (List.prefix_append _ _).isInfix
    · exact hactive

section

variable {job : Job} {rest : List Job} {seen : List Int}
  (h : Orderly o { todo := job :: rest, seen } d pending)
  (hdue : o.Due d.world job.instanceKey prepared)
  (hsent : ∃ c ∈ d.sent.drop o.sent,
    c.command = .modify job.instanceKey job.elementInstanceKey prepared.activations)
  (hstate : t.state = d.target.state.modify (job.modification prepared.activations))
include h hdue hsent hstate

/-- The instance of the job in hand is served. -/
theorem served_inHand :
    o.Served (d.withTarget t) job.instanceKey job.elementInstanceKey prepared := by
  obtain ⟨hhanded, helement⟩ := h.inHand job List.mem_cons_self
  obtain ⟨id, hmaps, _⟩ := hdue
  obtain ⟨i, hi, hkey, _⟩ := (h.owned.mapped id _ hmaps).1
  have hmem := TargetState.mem_modify (m := job.modification prepared.activations) hi
  have hafter : TargetState.afterModify (job.modification prepared.activations) i =
      TargetState.moved (job.modification prepared.activations) i :=
    if_pos (beq_iff_eq.2 hkey)
  rw [hafter] at hmem
  obtain ⟨definitions, journal, state⟩ := t
  obtain rfl : state = _ := hstate
  refine ⟨hsent, ⟨_, hmem, hkey, ?_, ?_⟩, ⟨job, hhanded, rfl, rfl⟩, ?_⟩
  · exact List.mem_append_right _ List.mem_cons_self
  · exact (List.suffix_append _ _).isInfix
  · intro j hj hsame
    obtain ⟨hold, hleft⟩ := TargetState.mem_outstanding_modify.1 hj
    exact TargetState.waitsOn_eq_false.1 hleft hsame (helement j hold hsame)

/-- Whoever is cared for still is. -/
theorem cared_modified {key element : Int} (hcared : o.Cared d key element) :
    o.Cared (d.withTarget t) key element := by
  obtain ⟨p, hdue', hcared⟩ := hcared
  refine ⟨p, hdue', ?_⟩
  rcases hcared with ⟨j, hj, htype, hkey, helement⟩ | hserved
  · by_cases hsame : j.instanceKey = job.instanceKey
    · right
      have hp : p = prepared := Outset.Due.unique h.owned (hkey ▸ hdue') (hsame ▸ hdue)
      rw [← hkey, ← helement, hsame, (h.inHand job List.mem_cons_self).2 j hj hsame, hp]
      exact served_inHand h hdue hsent hstate
    · left
      refine ⟨j, ?_, htype, hkey, helement⟩
      show j ∈ t.state.outstanding
      rw [hstate]
      refine TargetState.mem_outstanding_modify.2 ⟨hj, TargetState.waitsOn_eq_false.2 ?_⟩
      intro heq
      exact absurd heq hsame
  · exact .inr (served_modified hserved hstate)

/-- The instance of the job in hand is moved, as is owed to it. -/
theorem modified (hpending : ∀ p ∈ pending.entries, p.1 ≠ job.instanceKey) (ht : t.Sound)
    (hdefinitions : t.definitions = d.target.definitions) :
    Orderly o { todo := rest, seen } (d.withTarget t) pending := by
  have hcared : ∀ key element, o.Cared d key element → o.Cared (d.withTarget t) key element :=
    fun _ _ => cared_modified h hdue hsent hstate
  obtain ⟨id, hmaps, hprepares⟩ := hdue
  have howned := h.owned.modified ht hstate hdefinitions hmaps
  -- where nothing was owed at the beginning it is another instance
  have hother : ∀ key, o.Knows key → (∀ p, ¬o.Due o.world key p) → key ≠ job.instanceKey := by
    rintro key hknown hnot rfl
    exact hnot prepared ⟨id, h.mapsNew id _ hmaps hknown, hprepares⟩
  obtain ⟨definitions, journal, state⟩ := t
  obtain rfl : state = _ := hstate
  refine { h with
    owned := howned
    stay := ?stay
    untouched := ?untouched
    waiting := ?waiting
    dealtWith := ?dealtWith
    inHand := ?inHand
    loose := fun _ _ h => by cases h
    created := ?created
    left := fun j hj htype hdue => hcared _ _ (h.left j hj htype hdue)
    pending := ?pending }
  case stay =>
    intro key hknown
    obtain ⟨i, hi, hkey⟩ := h.stay key hknown
    refine ⟨_, TargetState.mem_modify hi, ?_⟩
    rw [TargetState.instanceKey_afterModify]
    exact hkey
  case untouched =>
    intro i hi hnot
    have hmem := TargetState.mem_modify (m := job.modification prepared.activations)
      (h.untouched i hi hnot)
    rw [TargetState.afterModify_of_ne (hother _ ⟨i, hi, rfl⟩ hnot)] at hmem
    exact hmem
  case waiting =>
    intro j hj hnot
    obtain ⟨i, hi, hwaits⟩ := h.outset.state.waits j hj
    refine TargetState.mem_outstanding_modify.2
      ⟨h.waiting j hj hnot, TargetState.waitsOn_eq_false.2 ?_⟩
    intro heq
    exact absurd heq (hother _ ⟨i, hi, hwaits.instanceKey.symm⟩ hnot)
  case dealtWith =>
    -- the job in hand is gone, and the others were dealt with or still are to be
    intro j hj htype hhanded htodo
    obtain ⟨hold, hleft⟩ := TargetState.mem_outstanding_modify.1 hj
    by_cases hsame : j = job
    · subst hsame
      exact absurd rfl (TargetState.waitsOn_eq_false.1 hleft rfl)
    · exact h.dealtWith j hold htype hhanded fun hmem => (List.mem_cons.1 hmem).elim hsame htodo
  case inHand =>
    intro j hj
    obtain ⟨hhanded, helement⟩ := h.inHand j (List.mem_cons_of_mem _ hj)
    exact ⟨hhanded, fun j' hj' => helement j' (TargetState.mem_outstanding_modify.1 hj').1⟩
  case created =>
    intro i hi hunknown hothers _
    obtain ⟨i', hold, rfl⟩ := TargetState.exists_of_mem_modify hi
    rw [TargetState.instanceKey_afterModify] at hunknown hothers ⊢
    obtain ⟨element, hcared'⟩ := h.created i' hold hunknown hothers fun _ h => by cases h
    exact ⟨element, hcared _ _ hcared'⟩
  case pending =>
    intro p hp
    obtain ⟨hprepared, element, j, hj, htype, hkey, helement⟩ := h.pending p hp
    refine ⟨hprepared, element, j, TargetState.mem_outstanding_modify.2 ⟨hj, ?_⟩, htype, hkey,
      helement⟩
    exact TargetState.waitsOn_eq_false.2 fun heq => absurd (hkey.symm.trans heq) (hpending p hp)

end

/-- Once all jobs of the migrator were handed out and dealt with, nothing waits to be handed over. -/
theorem nothingPending {seen : List Int} (h : Orderly o { seen } d pending)
    (hall : ∀ j ∈ d.target.state.outstanding, j.jobType = o.settings.jobType →
      j.key ∈ d.target.state.handedOut) : pending.entries = [] := by
  apply List.eq_nil_iff_forall_not_mem.2
  intro p hp
  obtain ⟨⟨prepared, hprepares, _⟩, element, j, hj, htype, hkey, _⟩ := h.pending p hp
  refine h.dealtWith j hj htype (hall j hj htype) List.not_mem_nil prepared ?_
  rw [hkey]
  exact ⟨p.2.legacyId, h.owned.pending p hp, hprepares⟩

end Orderly
end ProcessMigration
