import ProcessMigration.Proofs.FileRuns
import ProcessMigration.Proofs.Sessions

/-!
# Only the mapped instance is moved

A run may be broken off after it has started an instance and before it has written the key down; then
the instance is an orphan, and a later run starts another one for the same source instance. Others
start instances, too, with whatever variables. `Owned` says why none of these is ever moved: the mapping
records name instances that carry their ids and were not started by others, what waits to be handed
over is mapped, and whatever was moved is mapped.

* `Owned.joined`, `Owned.started`, `Owned.recorded`, `Owned.modified`, …: the steps of the invariant;
* `Workspace.handOver_owned`: there are two ways into a modification, what waits in memory and what is
  resolved again; both end at the mapped instance;
* `Workspace.run_owned`: a run keeps the invariant, wherever it is broken off;
* `Session.only_mapped_instances_are_moved` puts it together over all sessions.
-/

namespace ProcessMigration

open ProcessMigration.Action (Triple ReadOnly)

/-- The mapping store of the workspace gives this key to this id. -/
def Workspace.MapsTo (w : Workspace) (legacyId : String) (key : Int) : Prop :=
  w.tables.MapsTo w.database legacyId key

/-- There is an instance with this key that stands for this source instance. -/
def TargetState.Carries (s : TargetState) (key : Int) (legacyId : String) : Prop :=
  ∃ i ∈ s.instances, i.instanceKey = key ∧ i.legacyId? = some legacyId

/-- A command that moves tokens was sent for a job that was handed out, to the instance that the
records name for it, and they still name it. -/
def SentCommand.Justified (d : Interrupted Workspace) (c : SentCommand Workspace) : Prop :=
  ∀ key terminated activations, c.command = .modify key terminated activations →
    ∃ id, (∃ j ∈ d.handedOut, j.instanceKey = key ∧ j.elementInstanceKey = terminated ∧
      j.legacyId? = some id) ∧ c.world.MapsTo id key ∧ d.world.MapsTo id key

theorem Pending.mem_of_get? {p : Pending} {key : Int} {h : HandOver} (hget : p.get? key = some h) :
    (key, h) ∈ p.entries := by
  unfold Pending.get? at hget
  obtain ⟨l, r, heq, _⟩ := List.lookup_eq_some_iff.1 hget
  rw [heq]
  exact List.mem_append_right _ List.mem_cons_self

theorem Pending.ne_of_get? {p : Pending} {key : Int} (hget : p.get? key = none) :
    ∀ entry ∈ p.entries, entry.1 ≠ key := by
  unfold Pending.get? at hget
  intro entry hentry heq
  have hne := List.lookup_eq_none_iff.1 hget entry hentry
  rw [heq] at hne
  simp at hne

/-- The mapped instances are the migrator's own, and only they are moved. -/
structure Owned (definitions : List Definition) (d : Interrupted Workspace) (pending : Pending) :
    Prop where
  engine : d.target.Sound
  sameDefinitions : d.target.definitions = definitions
  records : d.world.tables.IsKept d.world.database
  mapped : ∀ id key, d.world.MapsTo id key →
    d.target.state.Carries key id ∧ key ∉ d.startedByOthers
  others : ∀ key ∈ d.startedByOthers, ∃ i ∈ d.target.state.instances, i.instanceKey = key
  pending : ∀ p ∈ pending.entries, d.world.MapsTo p.2.legacyId p.1
  moved : ∀ i ∈ d.target.state.instances, i.Moved → ∃ id, d.world.MapsTo id i.instanceKey
  handedOut : ∀ j ∈ d.handedOut, ∃ i ∈ d.target.state.instances,
    i.instanceKey = j.instanceKey ∧ i.legacyId? = j.legacyId?
  sent : ∀ c ∈ d.sent, c.Justified d

namespace Owned

variable {definitions : List Definition} {d : Interrupted Workspace} {pending : Pending}
  {t : TargetEngine} {request : CreateRequest} {e : StartedInstance}

/-! ## What follows from it -/

theorem carried_unique (h : Owned definitions d pending) {key : Int} {id id' : String}
    (hid : d.target.state.Carries key id) (hid' : d.target.state.Carries key id') : id = id' := by
  obtain ⟨i, hi, hkey, hlegacy⟩ := hid
  obtain ⟨i', hi', hkey', hlegacy'⟩ := hid'
  have hsame := h.engine.state.eq_of_key hi hi' (hkey.trans hkey'.symm)
  subst hsame
  rw [hlegacy] at hlegacy'
  exact Option.some.inj hlegacy'

/-- Where a mapped instance has a job, the job names the id that the instance is mapped to. -/
theorem legacyId?_of_handedOut (h : Owned definitions d pending) {j : Job} (hj : j ∈ d.handedOut)
    {id : String} (hmaps : d.world.MapsTo id j.instanceKey) : j.legacyId? = some id := by
  obtain ⟨i, hi, hkey, hlegacy⟩ := h.handedOut j hj
  obtain ⟨i', hi', hkey', hlegacy'⟩ := (h.mapped id _ hmaps).1
  have hsame := h.engine.state.eq_of_key hi hi' (hkey.trans hkey'.symm)
  subst hsame
  exact hlegacy.symm.trans hlegacy'

/-! ## Steps -/

/-- What comes of the engine when it keeps its instances, or adds new ones that are not moved. -/
theorem withTarget (h : Owned definitions d pending) (ht : t.Sound)
    (hdefinitions : t.definitions = d.target.definitions) (new : List TargetInstance)
    (hinstances : t.state.instances = d.target.state.instances ++ new)
    (hnew : ∀ i ∈ new, ¬i.Moved) : Owned definitions (d.withTarget t) pending where
  engine := ht
  sameDefinitions := hdefinitions.trans h.sameDefinitions
  records := h.records
  mapped id key hmaps := by
    obtain ⟨⟨i, hi, hkey, hid⟩, hothers⟩ := h.mapped id key hmaps
    refine ⟨⟨i, ?_, hkey, hid⟩, hothers⟩
    show i ∈ t.state.instances
    rw [hinstances]
    exact List.mem_append_left _ hi
  others key hkey := by
    obtain ⟨i, hi, hikey⟩ := h.others key hkey
    refine ⟨i, ?_, hikey⟩
    show i ∈ t.state.instances
    rw [hinstances]
    exact List.mem_append_left _ hi
  pending := h.pending
  moved i hi hmoved := by
    have hi' : i ∈ t.state.instances := hi
    rw [hinstances] at hi'
    rcases List.mem_append.1 hi' with hi' | hi'
    · exact h.moved i hi' hmoved
    · exact absurd hmoved (hnew i hi')
  handedOut j hj := by
    obtain ⟨i, hi, hkey, hid⟩ := h.handedOut j hj
    refine ⟨i, ?_, hkey, hid⟩
    show i ∈ t.state.instances
    rw [hinstances]
    exact List.mem_append_left _ hi
  sent := h.sent

/-- Keys that are drawn in vain change nothing. -/
theorem idle (h : Owned definitions d pending) (ht : d.target.Idle t) :
    Owned definitions (d.withTarget t) pending := by
  have hsound := ht.sound h.engine
  obtain ⟨a, keys, _, rfl⟩ := ht
  exact h.withTarget hsound rfl [] (List.append_nil _).symm fun _ hi => by cases hi

/-- One more instance changes nothing for the others. -/
theorem started (h : Owned definitions d pending) (ht : t.Sound)
    (hstarts : TargetEngine.Starts request e d.target t) :
    Owned definitions (d.withTarget t) pending := by
  refine h.withTarget ht hstarts.definitions _ (hstarts.instances h.engine) ?_
  intro i hi
  rw [List.mem_singleton.1 hi]
  rintro (hmoved | hmoved)
  · exact hmoved rfl
  · exact hmoved rfl

/-- A new instance carries the id of its request, and it was not started by others. -/
theorem carries_started (h : Owned definitions d pending)
    (hstarts : TargetEngine.Starts request e d.target t) {id : String}
    (hid : request.vars.get? legacyIdVariable = some (.string id)) :
    t.state.Carries e.instanceKey id ∧ e.instanceKey ∉ d.startedByOthers := by
  constructor
  · refine ⟨TargetState.instanceOf e, ?_, rfl, ?_⟩
    · rw [hstarts.instances h.engine]
      exact List.mem_append_right _ List.mem_cons_self
    · show (e.vars.get? legacyIdVariable).bind Json.text? = some id
      rw [hstarts.vars, hid]
      rfl
  · intro hmem
    obtain ⟨i, hi, hkey⟩ := h.others _ hmem
    exact hstarts.newKey h.engine hi hkey

/-- An instance of others is not mapped, since its key is new. -/
theorem joined (h : Owned definitions d pending) (ht : t.Sound)
    (hstarts : TargetEngine.Starts request e d.target t) :
    Owned definitions (d.joinedBy t e.instanceKey) pending := by
  have hstarted := h.started ht hstarts
  refine { hstarted with mapped := ?_, others := ?_}
  · intro id key hmaps
    obtain ⟨hcarries, hothers⟩ := hstarted.mapped id key hmaps
    refine ⟨hcarries, ?_⟩
    intro hmem
    rcases List.mem_append.1 hmem with hmem | hmem
    · exact hothers hmem
    · obtain ⟨⟨i, hi, hikey, _⟩, _⟩ := h.mapped id key hmaps
      exact hstarts.newKey h.engine hi (hikey.trans (List.mem_singleton.1 hmem))
  · intro key hkey
    rcases List.mem_append.1 hkey with hkey | hkey
    · exact hstarted.others key hkey
    · rw [List.mem_singleton.1 hkey]
      refine ⟨TargetState.instanceOf e, ?_, rfl⟩
      show _ ∈ t.state.instances
      rw [hstarts.instances h.engine]
      exact List.mem_append_right _ List.mem_cons_self

/-- Others and incidents do not disturb the invariant. -/
theorem stable (definitions : List Definition) :
    Run.Stable Workspace.jobEngine fun s => Owned definitions s.world s.pending :=
  Run.stable_of_starts (fun _ h => h.engine) (fun _ _ h => { h with })
    (fun _ _ h ht => h.idle ht) fun _ _ _ _ h ht hstarts => h.joined ht hstarts

/-- A creation that is noted is no modification. -/
theorem noted (h : Owned definitions d pending) (request : CreateRequest) :
    Owned definitions (d.send (.create request)) pending := by
  refine { h with sent := ?_}
  intro c hc
  rcases List.mem_append.1 hc with hc | hc
  · exact h.sent c hc
  · rw [List.mem_singleton.1 hc]
    rintro _ _ _ ⟨⟩

/-- A modification for a job that was handed out, of the instance that the job is mapped to. -/
theorem sentFor (h : Owned definitions d pending) {j : Job} (hj : j ∈ d.handedOut) {id : String}
    (hid : j.legacyId? = some id) (hmaps : d.world.MapsTo id j.instanceKey)
    (activations : List Activation) :
    Owned definitions (d.send (.modify j.instanceKey j.elementInstanceKey activations))
      pending := by
  refine { h with sent := ?_}
  intro c hc
  rcases List.mem_append.1 hc with hc | hc
  · exact h.sent c hc
  · rw [List.mem_singleton.1 hc]
    intro key terminated as hcommand
    cases hcommand
    exact ⟨id, ⟨j, hj, rfl, rfl, hid⟩, hmaps, hmaps⟩

/-- Moving the tokens of a mapped instance. -/
theorem modified (h : Owned definitions d pending) (ht : t.Sound) {m : ModifiedInstance}
    (hstate : t.state = d.target.state.modify m) (hdefinitions : t.definitions = d.target.definitions)
    {id : String} (hmaps : d.world.MapsTo id m.instanceKey) :
    Owned definitions (d.withTarget t) pending := by
  have hmem : ∀ i ∈ d.target.state.instances, TargetState.afterModify m i ∈ t.state.instances := by
    intro i hi
    rw [hstate]
    exact TargetState.mem_modify hi
  constructor
  case engine => exact ht
  case sameDefinitions => exact hdefinitions.trans h.sameDefinitions
  case records => exact h.records
  case mapped =>
    intro id' key hmaps'
    obtain ⟨⟨i, hi, hkey, hlegacy⟩, hothers⟩ := h.mapped id' key hmaps'
    exact ⟨⟨_, hmem i hi, by simpa using hkey, by simpa using hlegacy⟩, hothers⟩
  case others =>
    intro key hkey
    obtain ⟨i, hi, hikey⟩ := h.others key hkey
    exact ⟨_, hmem i hi, by simpa using hikey⟩
  case pending => exact h.pending
  case moved =>
    intro i hi hmoved
    have hi' : i ∈ t.state.instances := hi
    rw [hstate] at hi'
    obtain ⟨i', hold, rfl⟩ := TargetState.exists_of_mem_modify hi'
    rw [TargetState.instanceKey_afterModify]
    by_cases hkey : i'.instanceKey = m.instanceKey
    · exact ⟨id, hkey ▸ hmaps⟩
    · rw [TargetState.afterModify_of_ne hkey] at hmoved
      exact h.moved i' hold hmoved
  case handedOut =>
    intro j hj
    obtain ⟨i, hi, hkey, hlegacy⟩ := h.handedOut j hj
    exact ⟨_, hmem i hi, by simpa using hkey, by simpa using hlegacy⟩
  case sent => exact h.sent

/-- Jobs that are handed out belong to instances that stand for the same source instances. -/
theorem arrived (h : Owned definitions d pending) (ht : t.Sound) {jobs : List Job}
    (hjobs : ∀ j ∈ jobs, j ∈ d.target.state.outstanding)
    (hstate : t.state = d.target.state.handOut jobs)
    (hdefinitions : t.definitions = d.target.definitions) :
    Owned definitions ((d.withTarget t).arrived jobs) pending := by
  have hinstances : t.state.instances = d.target.state.instances ++ [] := by
    rw [hstate, List.append_nil]
    rfl
  have hnow := h.withTarget ht hdefinitions [] hinstances fun _ hi => by cases hi
  refine { hnow with handedOut := ?_, sent := ?_}
  · intro j hj
    rcases List.mem_append.1 hj with hj | hj
    · exact hnow.handedOut j hj
    · obtain ⟨i, hi, hwaits⟩ := h.engine.state.waits j (hjobs j hj)
      refine ⟨i, ?_, hwaits.instanceKey.symm, hwaits.legacyId?.symm⟩
      show i ∈ t.state.instances
      rw [hinstances]
      exact List.mem_append_left _ hi
  · intro c hc key terminated activations hcommand
    obtain ⟨id, ⟨j, hj, hfor⟩, hthen, hmaps⟩ := h.sent c hc key terminated activations hcommand
    exact ⟨id, ⟨j, List.mem_append_left _ hj, hfor⟩, hthen, hmaps⟩

/-- What waits can be forgotten. -/
theorem forgets (h : Owned definitions d pending) {fewer : Pending}
    (hsub : ∀ p ∈ fewer.entries, p ∈ pending.entries) : Owned definitions d fewer :=
  { h with pending := fun p hp => h.pending p (hsub p hp) }

/-- What a mapped instance waits for can be noted. -/
theorem notes (h : Owned definitions d pending) {key : Int} {waits : HandOver}
    (hmaps : d.world.MapsTo waits.legacyId key) : Owned definitions d (pending.insert key waits) := by
  refine { h with pending := ?_}
  intro p hp
  rcases List.mem_append.1 hp with hp | hp
  · exact h.pending p (List.mem_filter.1 hp).1
  · rw [List.mem_singleton.1 hp]
    exact hmaps

/-- A change of the records that takes nothing away, and maps new instances of the migrator only. -/
theorem recorded (h : Owned definitions d pending) {db : Database}
    (hkept : d.world.tables.IsKept db)
    (hstays : ∀ id key, d.world.MapsTo id key → (d.withDatabase db).world.MapsTo id key)
    (hnew : ∀ id key, (d.withDatabase db).world.MapsTo id key → d.world.MapsTo id key ∨
      (d.target.state.Carries key id ∧ key ∉ d.startedByOthers)) :
    Owned definitions (d.withDatabase db) pending := by
  constructor
  case engine => exact h.engine
  case sameDefinitions => exact h.sameDefinitions
  case records => exact hkept
  case mapped =>
    intro id key hmaps
    rcases hnew id key hmaps with hold | hnew
    · exact h.mapped id key hold
    · exact hnew
  case others => exact h.others
  case pending => exact fun p hp => hstays _ _ (h.pending p hp)
  case moved =>
    intro i hi hmoved
    obtain ⟨id, hid⟩ := h.moved i hi hmoved
    exact ⟨id, hstays _ _ hid⟩
  case handedOut => exact h.handedOut
  case sent =>
    intro c hc key terminated activations hcommand
    obtain ⟨id, hjob, hthen, hmaps⟩ := h.sent c hc key terminated activations hcommand
    exact ⟨id, hjob, hthen, hstays _ _ hmaps⟩

/-- A new instance of the migrator is mapped. -/
theorem gains (h : Owned definitions d pending) {db : Database} {id : String} {key : Int}
    (hkept : d.world.tables.IsKept db) (hgains : d.world.tables.Gains d.world.database db id key)
    (hcarries : d.target.state.Carries key id) (hown : key ∉ d.startedByOthers) :
    Owned definitions (d.withDatabase db) pending := by
  refine h.recorded hkept (fun id' key' hmaps => (hgains id' key').2 (.inl hmaps)) ?_
  intro id' key' hmaps
  refine ((hgains id' key').1 hmaps).imp_right ?_
  rintro ⟨rfl, rfl⟩
  exact ⟨hcarries, hown⟩

/-- Nothing is mapped that was not mapped before. -/
theorem mapsAlike (h : Owned definitions d pending) {db : Database}
    (hkept : d.world.tables.IsKept db) (halike : d.world.tables.MapsAlike d.world.database db) :
    Owned definitions (d.withDatabase db) pending :=
  h.recorded hkept (fun id key hmaps => (halike id key).2 hmaps) fun id key hmaps =>
    .inl ((halike id key).1 hmaps)

end Owned

/-! ## Steps of a run -/

namespace Workspace

/-- The invariant of a run over these definitions. -/
def OwnedRun (definitions : List Definition) (s : RunState (Interrupted Workspace)) : Prop :=
  Owned definitions s.world s.pending

/-- The migrator has started this instance for this source instance. -/
structure Fresh (id : String) (key : Int) (s : RunState (Interrupted Workspace)) : Prop where
  carries : s.world.target.state.Carries key id
  own : key ∉ s.world.startedByOthers

variable {definitions : List Definition} {settings : MigrationSettings} {pipeline : Pipeline}
  {id : String} {key : Int}

theorem stable_owned (definitions : List Definition) :
    Run.Stable jobEngine (OwnedRun definitions) :=
  Owned.stable definitions

theorem Fresh.withTarget {s : RunState (Interrupted Workspace)} (h : Fresh id key s)
    {t : TargetEngine} (new : List TargetInstance)
    (hinstances : t.state.instances = s.world.target.state.instances ++ new) :
    Fresh id key (s.withTarget t) := by
  obtain ⟨⟨i, hi, hkey, hid⟩, hown⟩ := h
  refine ⟨⟨i, ?_, hkey, hid⟩, hown⟩
  show i ∈ t.state.instances
  rw [hinstances]
  exact List.mem_append_left _ hi

theorem stable_fresh (definitions : List Definition) (id : String) (key : Int) :
    Run.Stable jobEngine fun s => OwnedRun definitions s ∧ Fresh id key s := by
  refine Run.stable_of_starts (fun _ h => h.1.engine)
    (fun _ _ h => ⟨{ h.1 with }, h.2.carries, h.2.own⟩) ?_ ?_
  · intro s t ⟨howned, hfresh⟩ ht
    refine ⟨howned.idle ht, ?_⟩
    obtain ⟨a, keys, _, rfl⟩ := ht
    exact hfresh.withTarget [] (List.append_nil _).symm
  · intro s t request e ⟨howned, hfresh⟩ ht hstarts
    refine ⟨howned.joined ht hstarts,
      (hfresh.withTarget _ (hstarts.instances howned.engine)).carries, ?_⟩
    intro hmem
    rcases List.mem_append.1 hmem with hmem | hmem
    · exact hfresh.own hmem
    · obtain ⟨i, hi, hkey, _⟩ := hfresh.carries
      exact hstarts.newKey howned.engine hi (hkey.trans (List.mem_singleton.1 hmem))

theorem create_owned {request : CreateRequest}
    (hid : request.vars.get? legacyIdVariable = some (.string id)) :
    Triple (OwnedRun definitions)
      (Run.engine ((interruptedMigrator settings pipeline).env.target.createInstance request))
      (fun handle s => OwnedRun definitions s ∧ Fresh id handle.instanceKey s)
      (OwnedRun definitions) := by
  refine Run.target_call (M := OwnedRun definitions) .createInstance (.send (.create request))
    (TargetEngine.createInstance request) (stable_owned definitions)
    (fun s hs => hs.noted request) (fun _ hs => hs) ?_ fun _ _ h => h.1
  intro s hs
  refine (TargetEngine.createInstance_triple hs.engine request).ends ?_ ?_
  · intro handle t ⟨hsound, e, hkey, hstarts⟩
    obtain ⟨hcarries, hown⟩ := hs.carries_started hstarts hid
    exact ⟨hs.started hsound hstarts, hkey ▸ hcarries, hkey ▸ hown⟩
  · intro t ht
    exact hs.idle ht

/-- The record of a new instance maps it. -/
theorem insertKey_owned (startTime : Option Instant) :
    Triple (fun s => OwnedRun definitions s ∧ Fresh id key s)
      (Run.store ((interruptedMigrator settings pipeline).env.store.insert
        (.migrated id key startTime)))
      (fun _ s => OwnedRun definitions s ∧ s.world.world.MapsTo id key)
      (OwnedRun definitions) := by
  refine Run.store_call (fun tables => Store.insert tables (.migrated id key startTime))
    (stable_fresh definitions id key) (fun _ h => h.1) ?_ fun _ _ h => h.1
  intro s ⟨howned, hfresh⟩
  refine (Store.insertKey_triple howned.records id key startTime).ends ?_ ?_
  · intro _ db ⟨hkept, hgains⟩
    exact ⟨howned.gains hkept hgains hfresh.carries hfresh.own, (hgains id key).2 (.inr ⟨rfl, rfl⟩)⟩
  · intro db ⟨hkept, halike⟩
    exact howned.mapsAlike hkept halike

theorem insertSkipped_owned (startTime : Option Instant) (reason : String) :
    Triple (OwnedRun definitions)
      (Run.store ((interruptedMigrator settings pipeline).env.store.insert
        (.skipped id startTime reason)))
      (fun _ => OwnedRun definitions) (OwnedRun definitions) := by
  refine Run.store_call (fun tables => Store.insert tables (.skipped id startTime reason))
    (stable_owned definitions) (fun _ h => h) ?_ fun _ _ h => h
  intro s howned
  refine (Store.insertSkipped_triple howned.records id startTime reason).ends ?_ ?_
  · intro _ db ⟨hkept, halike⟩
    exact howned.mapsAlike hkept halike
  · intro db ⟨hkept, halike⟩
    exact howned.mapsAlike hkept halike

/-- The flipped record of a new instance maps it. -/
theorem update_owned :
    Triple (fun s => OwnedRun definitions s ∧ Fresh id key s)
      (Run.store ((interruptedMigrator settings pipeline).env.store.update id key))
      (fun _ s => OwnedRun definitions s ∧ s.world.world.MapsTo id key)
      (OwnedRun definitions) := by
  refine Run.store_call (fun tables => Store.update tables id key)
    (stable_fresh definitions id key) (fun _ h => h.1) ?_ fun _ _ h => h.1
  intro s ⟨howned, hfresh⟩
  refine (Store.updateKey_triple howned.records id key).ends ?_ ?_
  · intro _ db ⟨hkept, hgains⟩
    exact ⟨howned.gains hkept hgains hfresh.carries hfresh.own, (hgains id key).2 (.inr ⟨rfl, rfl⟩)⟩
  · intro db ⟨hkept, halike⟩
    exact howned.mapsAlike hkept halike

/-- What a started instance waits for is noted once it is mapped. -/
theorem start_owned {i : SourceInstance} {prepared : Prepared}
    (hfits : prepared.Fits settings definitions i) {writeKey : Int → Action _ StoreError Unit}
    (hwrite : ∀ key, Triple (fun s => OwnedRun definitions s ∧ Fresh i.id key s)
      (Run.store (writeKey key)) (fun _ s => OwnedRun definitions s ∧ s.world.world.MapsTo i.id key)
      (OwnedRun definitions)) :
    Triple (OwnedRun definitions) ((interruptedMigrator settings pipeline).start i prepared writeKey)
      (fun _ => OwnedRun definitions) (OwnedRun definitions) := by
  unfold Migrator.start
  refine Triple.bind (create_owned hfits.carriesId) ?_
  intro handle
  refine Triple.bind (hwrite handle.instanceKey) ?_
  intro _
  apply Triple.modify
  rintro s ⟨howned, hmaps⟩
  exact howned.notes hmaps

/-! ## Handing over -/

/-- The invariant of a run that has these jobs in hand. -/
structure InHand (definitions : List Definition) (jobs : List Job)
    (s : RunState (Interrupted Workspace)) : Prop where
  owned : OwnedRun definitions s
  handedOut : ∀ j ∈ jobs, j ∈ s.world.handedOut

theorem stable_inHand (definitions : List Definition) (jobs : List Job) :
    Run.Stable jobEngine (InHand definitions jobs) :=
  Run.stable_of_starts (fun _ h => h.owned.engine) (fun _ _ h => ⟨{ h.owned with }, h.handedOut⟩)
    (fun _ _ h ht => ⟨h.owned.idle ht, h.handedOut⟩)
    fun _ _ _ _ h ht hstarts => ⟨h.owned.joined ht hstarts, h.handedOut⟩

theorem stable_inHand_mapsTo (definitions : List Definition) (jobs : List Job) (id : String)
    (key : Int) :
    Run.Stable jobEngine fun s => InHand definitions jobs s ∧ s.world.world.MapsTo id key :=
  (stable_inHand definitions jobs).and (Run.stable_of_apart (fun _ _ h => h) fun _ _ _ h => h)

variable {jobs : List Job} {job : Job}

/-- The second way into a modification: the record names the instance of the job. -/
theorem resolveAgain_owned (id : String) (key : Int) :
    Triple (InHand definitions jobs) ((interruptedMigrator settings pipeline).resolveAgain id key)
      (fun found s => InHand definitions jobs s ∧
        (found.isSome = true → s.world.world.MapsTo id key)) (InHand definitions jobs) := by
  have hnone : ∀ {P : RunState (Interrupted Workspace) → Prop},
      (∀ s, P s → InHand definitions jobs s) →
      Triple P (return none : Run (Interrupted Workspace) (Option (List Activation)))
        (fun found s => InHand definitions jobs s ∧
          (found.isSome = true → s.world.world.MapsTo id key)) (InHand definitions jobs) :=
    fun hP => Triple.pure fun s hs => ⟨hP s hs, fun h => by cases h⟩
  unfold Migrator.resolveAgain
  refine Triple.bind (Run.store_reads (stable_inHand definitions jobs)
    (onStore_readOnly fun tables => Store.targetKey?_readOnly id)) ?_
  intro mapped
  split
  · exact hnone fun s hs => hs.1
  · next hmapped =>
    have hmapped : mapped = some key := not_not.1 hmapped
    subst hmapped
    have hstable := stable_inHand_mapsTo definitions jobs id key
    refine Triple.bind (Triple.conseq (Run.engine_reads hstable
      (onSource_readOnly fun source => .ok (source.find? id))) (fun s hs => ⟨hs.1, hs.2⟩)
      (fun _ _ h => h.1) fun _ h => h.1) ?_
    intro found
    split
    · exact hnone fun s hs => hs.1
    · next i =>
      refine Triple.bind ((Run.prepare_triple hstable (fun s hs => hs.1.owned.sameDefinitions)
        i).ends (fun _ _ h => h.1) fun _ h => h.1) ?_
      intro p
      split
      · exact Triple.pure fun s hs => ⟨hs.1, fun _ => hs.2⟩
      · exact hnone fun s hs => hs.1

/-- Both ways into a modification end at the instance that the records name. -/
theorem activationsFor_owned (hjob : job ∈ jobs) (hid : job.legacyId? = some id) :
    Triple (InHand definitions jobs)
      ((interruptedMigrator settings pipeline).activationsFor id job.instanceKey)
      (fun found s => InHand definitions jobs s ∧
        (found.isSome = true → s.world.world.MapsTo id job.instanceKey))
      (InHand definitions jobs) := by
  unfold Migrator.activationsFor
  refine Triple.bind (M := fun s₀ s => s₀ = s ∧ InHand definitions jobs s)
    (Triple.get fun s hs => ⟨rfl, hs⟩) ?_
  intro s₀
  split
  · next handOver hwaits =>
    refine Triple.bind (M := fun _ s => InHand definitions jobs s ∧
      s.world.world.MapsTo id job.instanceKey) (Triple.modify ?_) fun _ =>
        Triple.pure fun s hs => ⟨hs.1, fun _ => hs.2⟩
    rintro s ⟨rfl, hs⟩
    have howned : Owned definitions s₀.world s₀.pending := hs.owned
    have hentry : (job.instanceKey, handOver) ∈ s₀.pending.entries :=
      Pending.mem_of_get? hwaits
    have hmaps : s₀.world.world.MapsTo id job.instanceKey := by
      have hwaiting := howned.pending _ hentry
      have hsame := howned.legacyId?_of_handedOut (hs.handedOut job hjob) hwaiting
      rw [hid] at hsame
      cases hsame
      exact hwaiting
    exact ⟨⟨howned.forgets fun p hp => (List.mem_filter.1 hp).1, hs.handedOut⟩, hmaps⟩
  · exact (resolveAgain_owned id job.instanceKey).pre fun s hs => hs.2

theorem modify_owned (hid : job.legacyId? = some id) (activations : List Activation) :
    Triple (fun s => InHand definitions (job :: jobs) s ∧
        s.world.world.MapsTo id job.instanceKey)
      (Run.engine ((interruptedMigrator settings pipeline).env.target.modifyInstance
        job.instanceKey job.elementInstanceKey activations))
      (fun _ => InHand definitions jobs) (OwnedRun definitions) := by
  refine Run.target_call
    (M := fun s => InHand definitions jobs s ∧ s.world.world.MapsTo id job.instanceKey)
    .modifyInstance (.send (.modify job.instanceKey job.elementInstanceKey activations))
    (TargetEngine.modifyInstance job.instanceKey job.elementInstanceKey activations)
    (stable_inHand_mapsTo definitions (job :: jobs) id job.instanceKey) ?_
    (fun _ h => h.1.owned) ?_ fun _ _ h => h.owned
  · intro s ⟨hs, hmaps⟩
    have howned : Owned definitions s.world s.pending := hs.owned
    refine ⟨⟨howned.sentFor (hs.handedOut job List.mem_cons_self) hid hmaps activations, ?_⟩, hmaps⟩
    intro j hj
    exact hs.handedOut j (List.mem_cons_of_mem _ hj)
  · intro s ⟨hs, hmaps⟩
    have howned : Owned definitions s.world s.pending := hs.owned
    refine (TargetEngine.modifyInstance_triple howned.engine
      ⟨job.instanceKey, job.elementInstanceKey, activations⟩).ends ?_ ?_
    · intro _ t ⟨ht, hstate, hdefinitions⟩
      exact ⟨howned.modified ht hstate hdefinitions hmaps, hs.handedOut⟩
    · intro t ht
      rw [ht]
      exact howned

theorem handOver_owned :
    Triple (InHand definitions (job :: jobs)) ((interruptedMigrator settings pipeline).handOver job)
      (fun _ => InHand definitions jobs) (OwnedRun definitions) := by
  have hdone : ∀ s, InHand definitions (job :: jobs) s → InHand definitions jobs s :=
    fun s hs => ⟨hs.owned, fun j hj => hs.handedOut j (List.mem_cons_of_mem _ hj)⟩
  unfold Migrator.handOver
  split
  · exact Triple.modify fun s hs => { hdone s hs with }
  · next legacyId hid =>
    refine Triple.bind ((activationsFor_owned List.mem_cons_self hid).ends
      (fun _ _ h => h) fun _ h => h.owned) ?_
    intro found
    cases found with
    | none => exact Triple.modify fun s hs => { hdone s hs.1 with }
    | some activations =>
      refine Triple.bind ((modify_owned hid activations).pre fun s hs => ⟨hs.1, hs.2 rfl⟩) ?_
      intro _
      exact Triple.modify fun s hs => { hs with }

theorem fetch_owned :
    Triple (OwnedRun definitions)
      (Run.engine ((interruptedMigrator settings pipeline).env.target.activateJobs
        settings.jobType settings.maxJobs))
      (fun jobs => InHand definitions jobs) (OwnedRun definitions) := by
  refine Run.fetch_call settings.jobType settings.maxJobs (stable_owned definitions)
    (fun s hs => hs.engine) (fun s hs => hs) ?_ fun _ _ h => h.owned
  intro s t jobs hs ht hjobs hstate hdefinitions
  refine ⟨Owned.arrived hs ht ?_ hstate hdefinitions, fun j hj => List.mem_append_right _ hj⟩
  intro j hj
  rw [hjobs] at hj
  exact (List.mem_filter.1 (List.mem_of_mem_take hj)).1

theorem drain_owned :
    Triple (OwnedRun definitions) (interruptedMigrator settings pipeline).drain
      (fun _ => OwnedRun definitions) (OwnedRun definitions) :=
  Migrator.HandsOver.drain (B := InHand definitions)
    { giveUp := fun _ hs => Owned.forgets hs fun _ hp => by cases hp
      fetch := fetch_owned
      fewer := fun _ _ _ hsub hs => ⟨hs.owned, fun j hj => hs.handedOut j (hsub.subset hj)⟩
      noJobs := fun _ hs => hs.owned
      handOver := fun _ _ => handOver_owned
      failed := fun _ hs => hs }

/-! ## Runs -/

/-- A run keeps the invariant, wherever it is broken off. -/
theorem run_owned (mode : Mode) :
    Triple (OwnedRun definitions) ((interruptedMigrator settings pipeline).run mode)
      (fun _ => OwnedRun definitions) (OwnedRun definitions) :=
  run_keeps (stable_owned definitions) (fun _ hs => Owned.sameDefinitions hs) (fun _ _ _ _ hs => hs)
    (fun _ hs => hs) drain_owned (fun _ _ hfits => start_owned hfits fun _ => insertKey_owned _)
    (fun _ _ hfits => start_owned hfits fun _ => update_owned) (fun _ _ => insertSkipped_owned _ _)
    mode

end Workspace

/-! ## Sessions -/

namespace Owned

variable {definitions definitions' : List Definition} {d : Interrupted Workspace}
  {pending : Pending} {t : TargetEngine}

/-- Opening the engine again changes nothing but variables that no record is about. -/
theorem reopened (h : Owned definitions d pending) {path : String}
    (hopen : TargetEngine.open definitions' path d.target.journal = .ok t) :
    Owned definitions' (d.withTarget t) pending := by
  obtain ⟨hsound, halike, hdefinitions, _⟩ := TargetEngine.open_sound h.engine hopen
  refine { h with
    engine := hsound
    sameDefinitions := hdefinitions
    mapped := ?mapped
    others := ?others
    moved := ?moved
    handedOut := ?handedOut }
  case mapped =>
    intro id key hmaps
    obtain ⟨⟨i, hi, hkey, hid⟩, hothers⟩ := h.mapped id key hmaps
    obtain ⟨i', hi', hkey', hid', _⟩ := halike.symm.exists_instance hi
    exact ⟨⟨i', hi', hkey'.trans hkey, hid'.trans hid⟩, hothers⟩
  case others =>
    intro key hkey
    obtain ⟨i, hi, hikey⟩ := h.others key hkey
    obtain ⟨i', hi', hkey', _⟩ := halike.symm.exists_instance hi
    exact ⟨i', hi', hkey'.trans hikey⟩
  case moved =>
    intro i hi hmoved
    obtain ⟨i', hi', hkey, _, _, hmoved'⟩ := halike.exists_instance hi
    obtain ⟨id, hid⟩ := h.moved i' hi' (hmoved'.2 hmoved)
    exact ⟨id, hkey ▸ hid⟩
  case handedOut =>
    intro j hj
    obtain ⟨i, hi, hkey, hid⟩ := h.handedOut j hj
    obtain ⟨i', hi', hkey', hid', _⟩ := halike.symm.exists_instance hi
    exact ⟨i', hi', hkey'.trans hkey, hid'.trans hid⟩

end Owned

namespace Session

open Workspace

/-- The invariant of a session, whatever the definitions are at the moment. -/
def IsOwned (s : Session) : Prop := ∃ definitions, Owned definitions s.state s.pending

theorem start_owned {w : Workspace} {definitions : List Definition}
    (hjournal : w.target = ⟨definitions, .absent, .start definitions⟩)
    (hempty : w.tables.Holds [] w.database) : Owned definitions (start w).state .empty := by
  have hstate : w.target.state = .start definitions := by rw [hjournal]
  have hnothing : w.target.state.instances = [] := by
    rw [hstate]
    rfl
  constructor
  case engine =>
    show w.target.Sound
    rw [hjournal]
    exact TargetEngine.sound_start definitions
  case sameDefinitions =>
    show w.target.definitions = definitions
    rw [hjournal]
  case records => exact ⟨[], hempty, Store.kept_nil⟩
  case mapped =>
    intro id key hmaps
    obtain ⟨r, hr, _⟩ := (Store.kept_nil.targetKey?_iff hempty).1 hmaps
    cases hr
  case others => exact fun _ h => by cases h
  case pending => exact fun _ h => by cases h
  case moved =>
    intro i hi
    have hi' : i ∈ w.target.state.instances := hi
    rw [hnothing] at hi'
    cases hi'
  case handedOut => exact fun _ h => by cases h
  case sent => exact fun _ h => by cases h

theorem step_owned {s : Session} (h : s.IsOwned) (e : Event) : (s.step e).IsOwned := by
  obtain ⟨definitions, h⟩ := h
  cases e with
  | pass p =>
    refine step_pass (run_owned p.mode) (I := OwnedRun definitions) ?_ ?_
    · exact { h with }
    · intro r hr
      exact ⟨definitions, { (show Owned definitions r.world r.pending from hr) with }⟩
  | rebuild => exact ⟨definitions, h.forgets fun _ hp => by cases hp⟩
  | reopen definitions' =>
    exact step_reopen ⟨definitions, h⟩ fun target hopen => ⟨definitions', h.reopened hopen⟩
  | reload source => exact ⟨definitions, { h with }⟩
  | startByOther request =>
    refine ⟨definitions, ?_⟩
    exact ((stable_owned definitions) { world := s.state, pending := s.pending }).startByOther
      s.state request h

theorem after_owned {s : Session} (h : s.IsOwned) (events : List Event) :
    (s.after events).IsOwned :=
  after_keeps (P := IsOwned) (fun e _ _ hs => step_owned hs e) h

/-- Only the instance that an id is mapped to is ever moved. From an absent journal and an empty
store on, whatever happens in the passes and between them: a command that moves tokens goes to an
instance for a job that was handed out, all jobs of this instance ever handed out carry one id, and
when the command was sent the records named the instance for this id. So the instances that were moved
are those that the records name, none of them was started by others, and no two of them stand for the
same source instance. -/
theorem only_mapped_instances_are_moved (w : Workspace) (definitions : List Definition)
    (events : List Event) (hjournal : w.target = ⟨definitions, .absent, .start definitions⟩)
    (hempty : w.tables.Holds [] w.database) :
    let s := (start w).after events
    (∀ c ∈ s.state.sent, ∀ key terminated activations,
      c.command = .modify key terminated activations → ∃ id,
        (∃ j ∈ s.state.handedOut, j.instanceKey = key ∧ j.elementInstanceKey = terminated) ∧
        (∀ j ∈ s.state.handedOut, j.instanceKey = key → j.legacyId? = some id) ∧
        ((Store.targetKey? c.world.tables id).run c.world.database).1 = .ok (some key)) ∧
    (∀ i ∈ s.world.target.state.instances, i.Moved → i.instanceKey ∉ s.state.startedByOthers ∧
      ∃ id, i.legacyId? = some id ∧
        ((Store.targetKey? s.world.tables id).run s.world.database).1 = .ok (some i.instanceKey)) ∧
    ∀ i ∈ s.world.target.state.instances, ∀ i' ∈ s.world.target.state.instances,
      i.Moved → i'.Moved → i.legacyId? = i'.legacyId? → i = i' := by
  intro s
  obtain ⟨definitions', h⟩ := after_owned ⟨definitions, start_owned hjournal hempty⟩ events
  have hmoved : ∀ i ∈ s.world.target.state.instances, i.Moved →
      i.instanceKey ∉ s.state.startedByOthers ∧
        ∃ id, i.legacyId? = some id ∧ s.world.MapsTo id i.instanceKey := by
    intro i hi hi'
    obtain ⟨id, hid⟩ := h.moved i hi hi'
    obtain ⟨⟨i', hi', hkey, hlegacy⟩, hothers⟩ := h.mapped id _ hid
    -- the record names an instance with this key, and keys are distinct
    have hsame := h.engine.state.eq_of_key hi' hi hkey
    subst hsame
    exact ⟨hothers, id, hlegacy, hid⟩
  refine ⟨?_, hmoved, ?_⟩
  · intro c hc key terminated activations hcommand
    obtain ⟨id, ⟨j, hj, hkey, helement, hid⟩, hthen, hnow⟩ :=
      h.sent c hc key terminated activations hcommand
    refine ⟨id, ⟨j, hj, hkey, helement⟩, ?_, hthen⟩
    -- what was mapped when it was sent is still mapped, so every job of the instance carries the id
    intro j' hj' hkey'
    exact h.legacyId?_of_handedOut hj' (hkey' ▸ hnow)
  · intro i hi i' hi' hm hm' hlegacy
    obtain ⟨_, id, hid, hmaps⟩ := hmoved i hi hm
    obtain ⟨_, id', hid', hmaps'⟩ := hmoved i' hi' hm'
    rw [hid, hid'] at hlegacy
    cases hlegacy
    exact h.engine.state.eq_of_key hi hi' (h.records.key_unique hmaps hmaps')

/-- A process whose start event has a listener of the migrator. -/
def orderProcess : Definition :=
  ⟨2251799813685249, "order", 1, none, ["start", "T1"], some ⟨"start", ["migrator"]⟩⟩

/-- One instance of that process waits at a task; nothing has been migrated yet. -/
def oneOrder : Workspace :=
  ⟨⟨[⟨⟨"a", "order", "order:1", none, none⟩,
      ⟨"a", "order", "process", none, [⟨"t", "T1", "userTask", none, [], []⟩], []⟩, [], .empty⟩]⟩,
    ⟨[orderProcess], .absent, .start [orderProcess]⟩, ⟨""⟩,
    ⟨[⟨"migration_mapping", .mapping []⟩], []⟩⟩

theorem oneOrder_empty : oneOrder.tables.Holds [] oneOrder.database := by
  simp [StoreTables.Holds, Database.rows, Database.table?, Database.sameName, StoreTables.mapping,
    oneOrder]

/-- Somebody starts an instance that claims to stand for it. -/
def impostor : CreateRequest :=
  ⟨orderProcess.key, "order", none, .ofList [(legacyIdVariable, .string "a")]⟩

/-- A first run that is broken off while impostors are started, and a second one on the journal that
is opened again. -/
def interruptedOrder : List Event :=
  [.startByOther impostor,
    .pass { mode := .migrate, settings := {}, pipeline := .empty,
            incidents := List.replicate 8 { others := [impostor] } ++
              [{ fate := .cutOff "connection lost" }] },
    .rebuild, .reopen [orderProcess],
    .pass { mode := .migrate, settings := {}, pipeline := .empty }]

/-- On an empty store, the impostors are not moved. -/
theorem impostors_are_not_moved :
    oneOrder.tables.Holds [] oneOrder.database ∧
      ∀ i ∈ ((start oneOrder).after interruptedOrder).world.target.state.instances,
        i.instanceKey ∈ ((start oneOrder).after interruptedOrder).state.startedByOthers →
          ¬i.Moved := by
  refine ⟨oneOrder_empty, ?_⟩
  intro i hi hothers hmoved
  obtain ⟨_, hall, _⟩ := only_mapped_instances_are_moved oneOrder [orderProcess] interruptedOrder
    rfl oneOrder_empty
  exact (hall i hi hmoved).1 hothers

end Session
end ProcessMigration
