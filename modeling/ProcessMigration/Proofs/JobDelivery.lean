import ProcessMigration.Proofs.JournalKeys

/-!
# The delivery of jobs

Which jobs wait is told by the journal; which of them were delivered, the engine remembers for as
long as it is open. The two change separately: a call that hands out jobs leaves them waiting, and
a call that removes jobs does not ask whether they were delivered.

* `TargetEngine.Delivering`: what is remembered are the jobs delivered so far, none of them twice;
  `Delivering.step` and `Delivering.after`: every call keeps that;
* `TargetEngine.Delivering.repeated`: calls for one type deliver the jobs of this type that are not
  delivered, in the order in which they were created;
* `TargetEngine.RemovesJobs`: jobs leave with the element instance on which they wait, and in no
  other way;
* `TargetEngine.jobs_are_delivered_once`: all of it, at any time of any session.
-/

namespace ProcessMigration

open ProcessMigration.Action (Triple)

/-! ## The order of creation -/

/-- The keys of the jobs that an entry brings. -/
def JournalEntry.jobKeys : JournalEntry → List Int
  | .create e => e.jobs.map (·.key)
  | .modify _ => []

theorem JournalEntry.jobKeys_sublist (e : JournalEntry) : e.jobKeys.Sublist e.keys := by
  cases e with
  | create e => exact List.sublist_append_right _ _
  | modify m => exact List.Sublist.refl _

theorem JournalEntry.flatMap_jobKeys_sublist (es : List JournalEntry) :
    (es.flatMap JournalEntry.jobKeys).Sublist (es.flatMap JournalEntry.keys) := by
  induction es with
  | nil => exact List.Sublist.refl _
  | cons e es ih =>
    rw [List.flatMap_cons, List.flatMap_cons]
    exact e.jobKeys_sublist.append ih

namespace TargetState

variable {s : TargetState}

/-- The jobs that wait after an entry wait before it, or the entry brings them. -/
theorem outstandingKeys_add (s : TargetState) (e : JournalEntry) :
    ((s.add e).outstanding.map (·.key)).Sublist (s.outstanding.map (·.key) ++ e.jobKeys) := by
  cases e with
  | create e =>
    show ((s.outstanding ++ jobsOf e).map (·.key)).Sublist _
    rw [List.map_append, keys_jobsOf]
    exact List.Sublist.refl _
  | modify m =>
    rw [show JournalEntry.jobKeys (.modify m) = [] from rfl, List.append_nil]
    exact List.filter_sublist.map _

theorem outstandingKeys_addAll (s : TargetState) (es : List JournalEntry) :
    ((s.addAll es).outstanding.map (·.key)).Sublist
      (s.outstanding.map (·.key) ++ es.flatMap JournalEntry.jobKeys) := by
  induction es generalizing s with
  | nil =>
    rw [List.flatMap_nil, List.append_nil]
    exact List.Sublist.refl _
  | cons e es ih =>
    rw [List.flatMap_cons, ← List.append_assoc]
    exact (ih (s.add e)).trans ((outstandingKeys_add s e).append (List.Sublist.refl _))

theorem instanceKey_of_instance? {key : Int} {i : TargetInstance} (h : s.instance? key = some i) :
    i.instanceKey = key := by
  have hfound := List.find?_some h
  exact beq_iff_eq.1 hfound

theorem instance?_modify (s : TargetState) (m : ModifiedInstance) (key : Int) :
    (s.modify m).instance? key = (s.instance? key).map (afterModify m) := by
  show (s.instances.map (afterModify m)).find? _ = _
  rw [List.find?_map]
  refine congrArg (Option.map (afterModify m)) ?_
  unfold TargetState.instance?
  congr 1
  funext i
  show ((afterModify m i).instanceKey == key) = (i.instanceKey == key)
  rw [instanceKey_afterModify]

end TargetState

/-- Of items with distinct keys, those without the keys of the first ones are the others. -/
theorem filter_keys_of_take {α : Type} {key : α → Int} {l : List α} (h : (l.map key).Nodup)
    (n : Nat) : l.filter (fun x => !((l.take n).map key).contains (key x)) = l.drop n := by
  have hparts : ((l.take n).map key ++ (l.drop n).map key).Nodup := by
    rwa [← List.map_append, List.take_append_drop]
  obtain ⟨_, _, hdisjoint⟩ := List.nodup_append.1 hparts
  have htaken : (l.take n).filter (fun x => !((l.take n).map key).contains (key x)) = [] := by
    apply List.filter_eq_nil_iff.2
    intro x hx
    rw [Bool.not_eq_true', List.contains_eq_mem, decide_eq_false_iff_not, not_not]
    exact List.mem_map_of_mem hx
  have hleft : (l.drop n).filter (fun x => !((l.take n).map key).contains (key x)) = l.drop n := by
    apply List.filter_eq_self.2
    intro x hx
    rw [Bool.not_eq_true', List.contains_eq_mem, decide_eq_false_iff_not]
    intro hmem
    exact hdisjoint _ hmem _ (List.mem_map_of_mem hx) rfl
  conv => lhs; arg 2; rw [← List.take_append_drop n l]
  rw [List.filter_append, htaken, hleft, List.nil_append]

namespace TargetEngine

variable {t t' : TargetEngine} {es : List JournalEntry} {jobs : List Job} {c : TargetStep}
  {jobType : String} {limit : Nat}

/-! ## Jobs that are delivered -/

/-- The jobs of a type that wait and are none of these, in the order of the journal. -/
def undelivered (t : TargetEngine) (jobs : List Job) (jobType : String) : List Job :=
  t.state.outstanding.filter fun j =>
    j.jobType == jobType && !(jobs.map (·.key)).contains j.key

/-- These jobs were delivered since the engine was opened. -/
structure Delivering (jobs : List Job) (t : TargetEngine) : Prop where
  sound : t.Sound
  handedOut : t.state.handedOut = jobs.map (·.key)
  once : (jobs.map (·.key)).Nodup

/-- A call for jobs hands them out, whatever the journal takes. -/
theorem activate_answered (t : TargetEngine) (jobType : String) (limit : Nat)
    (jammed : Option FileError) :
    TargetStep.jobs ⟨.activate jobType limit, jammed⟩ t = available t.state jobType limit ∧
      ((TargetStep.mk (.activate jobType limit) jammed).perform.run t).2 =
        ((activateJobs jobType limit).run t).2 := by
  cases jammed <;> exact ⟨rfl, rfl⟩

namespace Delivering

/-- A call for jobs is answered with the first ones that are not delivered. -/
theorem available_eq (h : Delivering jobs t) (jobType : String) (limit : Nat) :
    available t.state jobType limit = (t.undelivered jobs jobType).take limit := by
  unfold available undelivered
  rw [h.handedOut]

/-- A call that is answered with no job forgets none. -/
theorem silent (h : Delivering jobs t) (hsound : t'.Sound)
    (hhanded : t'.state.handedOut = t.state.handedOut) : Delivering jobs t' :=
  ⟨hsound, hhanded.trans h.handedOut, h.once⟩

theorem handOut (h : Delivering jobs t) (jobType : String) (limit : Nat) :
    Delivering (jobs ++ available t.state jobType limit)
      ((activateJobs jobType limit).run t).2 := by
  obtain ⟨es, hes⟩ := h.sound.wrote
  have hwrote := activateJobs_wrote hes jobType limit t rfl
  refine ⟨hwrote.1.sound, ?_, ?_⟩
  · rw [List.map_append, ← h.handedOut]
    rfl
  · rw [List.map_append]
    refine List.nodup_append.2 ⟨h.once, keys_available h.sound.state jobType limit, ?_⟩
    rintro key hold _ hnew rfl
    obtain ⟨j, hj, rfl⟩ := List.mem_map.1 hnew
    exact (mem_available hj).2.2 (h.handedOut ▸ hold)

/-- Every call adds the jobs that it is answered with. -/
theorem step (h : Delivering jobs t) (c : TargetStep) :
    Delivering (jobs ++ c.jobs t) (c.perform.run t).2 := by
  obtain ⟨es, hes⟩ := h.sound.wrote
  obtain ⟨call, jammed⟩ := c
  -- the jobs that others than `activate` are answered with are none
  have hother : (∀ jobType limit, call ≠ .activate jobType limit) →
      Delivering jobs ((TargetStep.mk call jammed).perform.run t).2 := by
    intro hcall
    have hrule : Triple (fun t₀ => t₀ = t) (TargetStep.mk call jammed).perform
        (fun _ => Delivering jobs) (Delivering jobs) := by
      refine ((TargetStep.mk call jammed).perform_wrote hes).ends ?_ ?_
      · rintro _ t' ⟨added, hadds, hwrote, _⟩
        refine h.silent hwrote.sound ?_
        dsimp only at hadds
        cases hadds with
        | create _ _ hdraws hstate =>
          rw [hstate, TargetState.create_eq h.sound.state hdraws]
        | modify _ hstate =>
          rw [hstate]
          rfl
        | activate _ => exact absurd rfl (hcall _ _)
      · intro t' hidle
        have hsound := hidle.sound h.sound
        obtain ⟨a, keys, _, rfl⟩ := hidle
        exact h.silent hsound rfl
    exact hrule.state rfl
  cases call with
  | create request =>
    rw [show TargetStep.jobs ⟨.create request, jammed⟩ t = [] from rfl, List.append_nil]
    exact hother fun _ _ hcall => by cases hcall
  | modify key terminated activations =>
    rw [show TargetStep.jobs ⟨.modify key terminated activations, jammed⟩ t = [] from rfl,
      List.append_nil]
    exact hother fun _ _ hcall => by cases hcall
  | activate jobType limit =>
    obtain ⟨hjobs, hrun⟩ := activate_answered t jobType limit jammed
    rw [hjobs, hrun]
    exact h.handOut jobType limit

/-- So do all calls together. -/
theorem after (h : Delivering jobs t) (steps : List TargetStep) :
    Delivering (jobs ++ t.delivered steps) (t.after steps) := by
  induction steps generalizing jobs t with
  | nil =>
    rw [show t.delivered [] = [] from rfl, List.append_nil]
    exact h
  | cons c steps ih =>
    rw [show t.delivered (c :: steps) = c.jobs t ++ (c.perform.run t).2.delivered steps from rfl,
      ← List.append_assoc]
    exact ih (h.step c)

/-! ## Calls for one type -/

theorem keys_undelivered (h : Delivering jobs t) (jobType : String) :
    ((t.undelivered jobs jobType).map (·.key)).Nodup :=
  (List.filter_sublist.map _).nodup h.sound.state.jobKeys

/-- What a call for a type leaves undelivered are all but the first ones. -/
theorem undelivered_activate (h : Delivering jobs t) (hcall : c.call = .activate jobType limit) :
    c.jobs t = (t.undelivered jobs jobType).take limit ∧
      (c.perform.run t).2.undelivered (jobs ++ c.jobs t) jobType =
        (t.undelivered jobs jobType).drop limit := by
  obtain ⟨call, jammed⟩ := c
  dsimp only at hcall
  subst hcall
  obtain ⟨hjobs, hrun⟩ := activate_answered t jobType limit jammed
  rw [h.available_eq] at hjobs
  refine ⟨hjobs, ?_⟩
  rw [hjobs, ← filter_keys_of_take (h.keys_undelivered jobType) limit]
  unfold undelivered
  rw [hrun, List.map_append, List.filter_filter]
  apply List.filter_congr
  intro j _
  simp only [List.contains_eq_mem, List.mem_append, Bool.decide_or, Bool.not_or]
  ac_rfl

/-- Calls for a type deliver the jobs of this type, so many as they ask for, and leave the others.
-/
theorem repeated (h : Delivering jobs t) {calls : List TargetStep}
    (hcalls : ∀ c ∈ calls, c.call = .activate jobType limit) :
    t.delivered calls = (t.undelivered jobs jobType).take (calls.length * limit) ∧
      (t.after calls).undelivered (jobs ++ t.delivered calls) jobType =
        (t.undelivered jobs jobType).drop (calls.length * limit) := by
  induction calls generalizing jobs t with
  | nil =>
    rw [List.length_nil, Nat.zero_mul, List.take_zero, List.drop_zero]
    refine ⟨rfl, ?_⟩
    rw [show t.delivered [] = [] from rfl, List.append_nil]
    rfl
  | cons c calls ih =>
    obtain ⟨hjobs, hleft⟩ := h.undelivered_activate (hcalls c List.mem_cons_self)
    obtain ⟨hrest, hend⟩ := ih (h.step c) fun c' hc' => hcalls c' (List.mem_cons_of_mem c hc')
    rw [hleft] at hrest hend
    rw [show t.delivered (c :: calls) = c.jobs t ++ (c.perform.run t).2.delivered calls from rfl,
      List.length_cons, Nat.succ_mul, Nat.add_comm]
    constructor
    · rw [hrest, hjobs, List.take_add]
    · rw [← List.append_assoc, ← List.drop_drop]
      exact hend

end Delivering

/-! ## Jobs that leave -/

/-- How jobs leave: with the element instance on which they wait. -/
structure RemovesJobs (t : TargetEngine) : Prop where
  /-- A job that a call removes is one whose instance and element instance the call names. -/
  leaves : ∀ (c : TargetStep), ∀ j ∈ t.state.outstanding,
    j ∉ (c.perform.run t).2.state.outstanding →
      ∃ activations, c.call = .modify j.instanceKey j.elementInstanceKey activations ∧
        (c.perform.run t).1 = .ok ()
  /-- Unless the journal is jammed, such a call removes any job. -/
  removable : ∀ j ∈ t.state.outstanding, ∀ activations,
    ((TargetCall.modify j.instanceKey j.elementInstanceKey activations).perform.run t).1 = .ok ()
  /-- It removes all jobs that wait there and no others, and changes no other instance. -/
  removes : ∀ (c : TargetStep) (m : ModifiedInstance) (t' : TargetEngine),
    c.call = .modify m.instanceKey m.terminatedKey m.activations → c.perform.run t = (.ok (), t') →
      t'.state.outstanding = t.state.outstanding.filter (fun j =>
        !(j.instanceKey == m.instanceKey && j.elementInstanceKey == m.terminatedKey)) ∧
      ∀ key, t'.state.instance? key =
        if key = m.instanceKey then (t.state.instance? key).map (TargetState.moved m)
        else t.state.instance? key
  /-- A call that fails leaves the journal, the instances and the jobs as they were. -/
  refused : ∀ (c : TargetStep) (e : ConnectorError) (t' : TargetEngine),
    c.perform.run t = (.error e, t') → Unchanged t t'

/-- A job that waits keeps doing so, unless its instance and its element instance are named. -/
theorem waits_on (h : t.Wrote es) (c : TargetStep) {j : Job} (hj : j ∈ t.state.outstanding) :
    Triple (fun t₀ => t₀ = t) c.perform
      (fun _ t' => j ∈ t'.state.outstanding ∨
        ∃ activations, c.call = .modify j.instanceKey j.elementInstanceKey activations)
      (fun t' => j ∈ t'.state.outstanding) := by
  refine (c.perform_wrote h).ends ?_ ?_
  · rintro _ t' ⟨added, hadds, _, _⟩
    obtain ⟨call, jammed⟩ := c
    dsimp only at hadds ⊢
    cases hadds with
    | create _ _ hdraws hstate =>
      rw [hstate, TargetState.create_eq h.state hdraws]
      exact .inl (List.mem_append_left _ hj)
    | @modify m _ _ hstate =>
      by_cases hwaits : TargetState.waitsOn m j = true
      · have hboth := hwaits
        unfold TargetState.waitsOn at hboth
        rw [Bool.and_eq_true, beq_iff_eq, beq_iff_eq] at hboth
        exact .inr ⟨m.activations, by rw [hboth.1, hboth.2]⟩
      · rw [hstate]
        exact .inl (TargetState.mem_outstanding_modify.2 ⟨hj, Bool.not_eq_true _ ▸ hwaits⟩)
    | activate hstate =>
      rw [hstate]
      exact .inl hj
  · rintro t' ⟨a, keys, _, rfl⟩
    exact hj

/-- A modification that succeeds has moved the tokens of its instance. -/
theorem state_of_modify (h : t.Wrote es) {m : ModifiedInstance}
    (hcall : c.call = .modify m.instanceKey m.terminatedKey m.activations)
    (hrun : c.perform.run t = (.ok (), t')) : t'.state = t.state.modify m := by
  have hwrote := c.perform_wrote h t rfl
  rw [hrun] at hwrote
  obtain ⟨added, hadds, _, _⟩ := hwrote
  obtain ⟨call, jammed⟩ := c
  obtain ⟨key, terminated, activations⟩ := m
  dsimp only at hcall hadds
  subst hcall
  cases hadds with
  | modify _ hstate => exact hstate

/-- Tokens of an instance that is there are moved. -/
theorem modifyInstance_accepted (h : t.Wrote es) {m : ModifiedInstance}
    (hthere : (t.state.instance? m.instanceKey).isSome) :
    ((modifyInstance m.instanceKey m.terminatedKey m.activations).run t).1 = .ok () := by
  obtain ⟨journal, happend, _⟩ := h.recorded.journal.append (.modify m)
  have happly : t.state.apply (.modify m) = .ok (t.state.modify m) := if_pos hthere
  unfold modifyInstance
  rw [Action.run_bind_ok (Action.run_get t), if_pos hthere]
  unfold Action.run accept
  simp only [happend, happly]

theorem removesJobs (h : t.Wrote es) : RemovesJobs t where
  leaves c j hj hgone := by
    have hstep := waits_on h c hj t rfl
    rcases hrun : c.perform.run t with ⟨r, t'⟩
    rw [hrun] at hstep hgone
    cases r with
    | error e => exact absurd hstep hgone
    | ok u =>
      obtain ⟨activations, hcall⟩ := hstep.resolve_left hgone
      exact ⟨activations, hcall, rfl⟩
  removable j hj activations := by
    obtain ⟨i, hi, hwaits⟩ := h.state.waits j hj
    refine modifyInstance_accepted (m := j.modification activations) h ?_
    exact List.find?_isSome.2 ⟨i, hi, beq_iff_eq.2 hwaits.instanceKey.symm⟩
  removes c m t' hcall hrun := by
    rw [state_of_modify h hcall hrun]
    refine ⟨rfl, ?_⟩
    intro key
    rw [TargetState.instance?_modify]
    split
    · next hkey =>
      apply Option.map_congr
      intro i hi
      have hfound := TargetState.instanceKey_of_instance? hi
      exact if_pos (beq_iff_eq.2 (hfound.trans hkey))
    · next hkey =>
      cases hfind : t.state.instance? key with
      | none => rfl
      | some i =>
        have hfound := TargetState.instanceKey_of_instance? hfind
        exact congrArg some (TargetState.afterModify_of_ne (hfound ▸ hkey))
  refused c e t' hrun := h.unchanged_of_error hrun

/-! ## Everything at once -/

/-- How the jobs of an engine are delivered that has delivered these since it was opened. -/
structure DeliversOnce (jobs : List Job) (t : TargetEngine) : Prop where
  /-- No job was delivered twice. -/
  once : (jobs.map (·.key)).Nodup
  /-- The jobs that wait stand in the order in which the entries of the journal bring them, and
  their keys ascend. -/
  inOrder : ∃ es, t.journal.Holds es ∧
    (t.state.outstanding.map (·.key)).Sublist (es.flatMap JournalEntry.jobKeys) ∧
    (es.flatMap JournalEntry.jobKeys).Pairwise (· < ·)
  /-- A call for jobs of a type delivers the first ones that were not delivered. -/
  next : ∀ jobType limit, ((activateJobs jobType limit).run t).1 =
    .ok ((t.undelivered jobs jobType).take limit)
  /-- Such calls, one after the other, deliver them in order until there are none. -/
  repeated : ∀ (jobType : String) (limit : Nat) (calls : List TargetStep),
    (∀ c ∈ calls, c.call = .activate jobType limit) →
      t.delivered calls = (t.undelivered jobs jobType).take (calls.length * limit)
  /-- As soon as a call for at least one job is answered with none, all are delivered. -/
  exhausted : ∀ (jobType : String) (limit : Nat) (calls : List TargetStep), 1 ≤ limit →
    (∀ c ∈ calls, c.call = .activate jobType limit) →
      ((activateJobs jobType limit).run (t.after calls)).1 = .ok [] →
        t.delivered calls = t.undelivered jobs jobType
  /-- That comes to pass after as many calls as there are jobs, or earlier. -/
  ends : ∀ (jobType : String) (limit : Nat) (calls : List TargetStep), 1 ≤ limit →
    (∀ c ∈ calls, c.call = .activate jobType limit) →
      (t.undelivered jobs jobType).length ≤ calls.length →
        ((activateJobs jobType limit).run (t.after calls)).1 = .ok []

theorem activateJobs_run (h : Delivering jobs t) (jobType : String) (limit : Nat) :
    ((activateJobs jobType limit).run t).1 = .ok ((t.undelivered jobs jobType).take limit) :=
  congrArg Except.ok (h.available_eq jobType limit)

theorem Delivering.deliversOnce (h : Delivering jobs t) (havoids : Avoids [] es t) :
    DeliversOnce jobs t := by
  have hanswer : ∀ (jobType : String) (limit : Nat) (calls : List TargetStep),
      (∀ c ∈ calls, c.call = .activate jobType limit) →
        ((activateJobs jobType limit).run (t.after calls)).1 =
          .ok (((t.undelivered jobs jobType).drop (calls.length * limit)).take limit) := by
    intro jobType limit calls hcalls
    rw [activateJobs_run (h.after calls), (h.repeated hcalls).2]
  refine ⟨h.once, ⟨es, havoids.wrote.recorded.journal, ?_, ?_⟩, activateJobs_run h,
    fun jobType limit calls hcalls => (h.repeated hcalls).1, ?_, ?_⟩
  · rw [havoids.wrote.recorded.alike.outstandingKeys]
    exact TargetState.outstandingKeys_addAll (TargetState.start []) es
  · exact havoids.inOrder.ascending.sublist (JournalEntry.flatMap_jobKeys_sublist es)
  · intro jobType limit calls hlimit hcalls hnone
    rw [hanswer jobType limit calls hcalls] at hnone
    have hleft : (t.undelivered jobs jobType).drop (calls.length * limit) = [] :=
      (List.take_eq_nil_iff.1 (Except.ok.inj hnone)).resolve_left (by omega)
    rw [(h.repeated hcalls).1, List.take_of_length_le (List.drop_eq_nil_iff.1 hleft)]
  · intro jobType limit calls hlimit hcalls hlength
    have henough : (t.undelivered jobs jobType).length ≤ calls.length * limit :=
      Nat.le_trans hlength (Nat.le_mul_of_pos_right _ hlimit)
    rw [hanswer jobType limit calls hcalls, List.drop_eq_nil_of_le henough, List.take_nil]

/-- **Jobs are delivered once and none is lost**, at any time of any session on a journal that
earlier sessions have written. -/
theorem jobs_are_delivered_once (path : String) (sessions : List TargetSession)
    (definitions : List Definition) (t : TargetEngine)
    (hopen : TargetEngine.open definitions path (JournalFile.absent.afterSessions path sessions) =
      .ok t) (steps : List TargetStep) :
    DeliversOnce (t.delivered steps) (t.after steps) ∧ RemovesJobs (t.after steps) := by
  obtain ⟨es, hjournal⟩ := (InOrderOn.absent []).afterSessions path sessions
    fun _ _ _ hkey => by cases hkey
  have hstart : Avoids [] es t := hjournal.opened hopen fun _ hkey => by cases hkey
  have hnone : t.state.handedOut = [] := by
    obtain ⟨_, t₀, hsame, hwrote⟩ := hjournal
    rw [← hsame] at hopen
    exact (open_wrote hwrote hopen).2.2.2
  have hbegin : Delivering [] t := ⟨hstart.wrote.sound, hnone, .nil⟩
  obtain ⟨es', hend⟩ := hstart.after steps
  exact ⟨(hbegin.after steps).deliversOnce hend, removesJobs hend.wrote⟩

/-- A process whose start has three listeners, two of them for the same type of job. -/
def claim : Definition :=
  ⟨7, "claim", 1, none, ["start"], some ⟨"start", ["migrator", "audit", "migrator"]⟩⟩

def claimRequest : CreateRequest := ⟨7, "claim", none, .empty⟩

/-- Calls that ask for one job, and then for more than there are, while the journal is jammed. -/
def migratorCalls : List TargetStep :=
  [⟨.activate "migrator" 1, none⟩, ⟨.activate "migrator" 5, some .isDirectory⟩,
    ⟨.activate "migrator" 5, none⟩]

/-- The session before has started an instance. -/
theorem told_claim :
    Told [claim] [.create (claimRequest.entry claim (fresh [claim]).state.keys)]
      ((fresh [claim]).after [⟨.create claimRequest, none⟩]) := by
  have hroom : claim.keysNeeded ≤ (fresh [claim]).state.keys.left := by decide
  have hfind : (fresh [claim]).definitions.find? (fun d => d.key == claimRequest.definitionKey) =
      some claim := rfl
  have hrun := createInstance_accepted (wrote_start [claim]) hfind hroom (fresh [claim]) rfl
  refine (Told.fresh [claim]).create ?_ ?_ hfind ⟨rfl, rfl, rfl, rfl, rfl, rfl⟩ ?_ hrun.2 hrun.1 rfl
  · intro d hd
    rw [List.mem_singleton.1 hd]
    exact ⟨by decide, by decide⟩
  · intro v hv
    cases hv
  · rw [claimRequest.keysOf_entry hroom]
    exact KeyAllocator.draws_advance hroom

/-- The next session is answered with each of the two jobs once. -/
theorem both_migrators_are_delivered_once :
    ∃ t, TargetEngine.open [claim] "journal.jsonl" (JournalFile.absent.afterSessions "journal.jsonl"
        [⟨[claim], [⟨.create claimRequest, none⟩]⟩]) = .ok t ∧
      DeliversOnce (t.delivered migratorCalls) (t.after migratorCalls) ∧
      RemovesJobs (t.after migratorCalls) ∧
      (t.delivered migratorCalls).map (·.key) =
        [Key.base journalPartition + 3, Key.base journalPartition + 5] := by
  have hfits : ∀ e ∈ [JournalEntry.create (claimRequest.entry claim (fresh [claim]).state.keys)],
      e.Fits := by
    intro e he
    rw [List.mem_singleton.1 he]
    exact JournalEntry.fits_create_iff.2 fun v hv => by cases hv
  obtain ⟨t, hopen, hrestores, _⟩ := told_claim.reopens hfits "journal.jsonl"
  obtain ⟨honce, hremoves⟩ := jobs_are_delivered_once "journal.jsonl"
    [⟨[claim], [⟨.create claimRequest, none⟩]⟩] [claim] t hopen migratorCalls
  refine ⟨t, hopen, honce, hremoves, ?_⟩
  obtain ⟨definitions, journal, keys, instances, outstanding, handedOut⟩ := t
  obtain rfl : outstanding = _ := hrestores.outstanding
  obtain rfl : handedOut = _ := hrestores.handedOut
  rfl

end TargetEngine
end ProcessMigration
