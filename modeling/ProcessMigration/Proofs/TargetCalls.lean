import ProcessMigration.Proofs.TargetEngine
import ProcessMigration.Target.Calls

/-!
# What a call does to the target engine

A call that fails leaves journal, instances and jobs as they were, whatever it failed at: a definition
or an instance that is not known, keys that run out halfway, a journal that takes no line. Keys that
were drawn stay drawn.

* `TargetEngine.createInstance_jammed`: a creation with a jammed journal draws keys at most;
* `TargetStep.perform_rule`: a call that the journal does not take draws keys at most;
* `TargetStep.perform_wrote`: what a call adds to the journal and to the state, and what it leaves
  when it fails;
* `TargetEngine.after_induction`: what every call keeps holds after all of them.
-/

namespace ProcessMigration

open ProcessMigration.Action (Triple)

variable {α : Type}

/-! ## A jammed journal -/

namespace TargetEngine

variable {t₀ : TargetEngine}

/-- With a jammed journal an action does what it does on a journal that takes no line. -/
theorem jam_triple {x : TargetAction α} {Q : α → TargetEngine → Prop} {R : TargetEngine → Prop}
    (cause : FileError)
    (hx : Triple (fun t => t = t₀.withJournal (.broken cause)) x
      (fun a t => Q a (t.withJournal t₀.journal)) fun t => R (t.withJournal t₀.journal)) :
    Triple (fun t => t = t₀) (jam cause x) Q R := by
  intro t ht
  subst ht
  have hrun := hx _ rfl
  unfold Action.run jam at *
  rcases hx' : x (t.withJournal (.broken cause)) with ⟨r, t'⟩
  rw [hx'] at hrun
  unfold Action.run
  rw [hx']
  cases r with
  | ok a => exact hrun
  | error e => exact hrun

/-- No entry is accepted by a journal that takes no line. -/
theorem accept_broken (cause : FileError) (operation : String) (e : JournalEntry)
    (t₀ : TargetEngine) (hjournal : t₀.journal = .broken cause) :
    Triple (fun t => t = t₀) (accept operation e) (fun _ _ => False) (fun t => t = t₀) := by
  intro t ht
  subst ht
  obtain ⟨definitions, journal, state⟩ := t
  subst hjournal
  rfl

/-- On a journal that takes no line no instance is started; keys may be drawn. -/
theorem createInstance_broken (cause : FileError) (request : CreateRequest) :
    Triple (fun t => t = t₀.withJournal (.broken cause)) (createInstance request)
      (fun _ _ => False) (fun t => Idle t₀ (t.withJournal t₀.journal)) := by
  refine createInstance_rule ?_ ?_
  · rintro t ⟨a, keys, hdraws, rfl⟩
    exact ⟨a, keys, hdraws, rfl⟩
  · intro d e a _ _ hdraws
    refine (accept_broken cause _ _ _ rfl).ends (fun _ _ ht => ht) ?_
    rintro t rfl
    exact ⟨a, _, hdraws, rfl⟩

/-- With a jammed journal no instance is started; keys may be drawn. -/
theorem createInstance_jammed (cause : FileError) (request : CreateRequest) :
    Triple (fun t => t = t₀) (jam cause (createInstance request)) (fun _ _ => False)
      (Idle t₀) :=
  jam_triple cause (createInstance_broken cause request)

/-- With a jammed journal no tokens are moved. -/
theorem modifyInstance_jammed (cause : FileError) (key terminated : Int)
    (activations : List Activation) :
    Triple (fun t => t = t₀) (jam cause (modifyInstance key terminated activations))
      (fun _ _ => False) (fun t => t = t₀) := by
  refine jam_triple cause ?_
  have hback : ∀ t, t = t₀.withJournal (.broken cause) → t.withJournal t₀.journal = t₀ := by
    rintro t rfl
    rfl
  unfold modifyInstance
  refine Triple.get_bind ?_
  split
  · exact (accept_broken cause _ _ _ rfl).ends (fun _ _ ht => ht) hback
  · exact Triple.fail hback

end TargetEngine

/-! ## What a call adds -/

namespace TargetEngine

variable {t t₀ : TargetEngine} {es : List JournalEntry}

/-- Tokens are moved only where there are some. -/
theorem modifyInstance_known (t₀ : TargetEngine) (key terminated : Int)
    (activations : List Activation) :
    Triple (fun t => t = t₀) (modifyInstance key terminated activations)
      (fun _ _ => (t₀.state.instance? key).isSome) (fun _ => True) := by
  unfold modifyInstance
  refine Triple.get_bind ?_
  split
  · next hthere => exact Triple.any (fun _ _ => hthere) fun _ => trivial
  · exact Triple.fail fun _ _ => trivial

/-- What an accepted call adds to an engine. -/
inductive Adds (t : TargetEngine) : TargetCall → List JournalEntry → TargetEngine → Prop where
  | create {request : CreateRequest} {d : Definition} {e : StartedInstance} {a : KeyAllocator}
      {t' : TargetEngine}
      (definition : t.definitions.find? (fun d => d.key == request.definitionKey) = some d)
      (records : Records request d e) (draws : t.state.keys.Draws a (TargetState.keysOf e))
      (state : t'.state = (t.state.withKeys a).create e) : Adds t (.create request) [.create e] t'
  | modify {m : ModifiedInstance} {t' : TargetEngine}
      (known : (t.state.instance? m.instanceKey).isSome) (state : t'.state = t.state.modify m) :
      Adds t (.modify m.instanceKey m.terminatedKey m.activations) [.modify m] t'
  | activate {jobType : String} {limit : Nat} {jobs : List Job} {t' : TargetEngine}
      (state : t'.state = t.state.handOut jobs) : Adds t (.activate jobType limit) [] t'

end TargetEngine

open TargetEngine (Idle Adds)

/-- A call adds its entry and its effect, or it fails and draws keys at most. -/
theorem TargetCall.perform_wrote {t₀ : TargetEngine} {es : List JournalEntry} (h : t₀.Wrote es)
    (c : TargetCall) :
    Triple (fun t => t = t₀) c.perform
      (fun _ t => ∃ added, Adds t₀ c added t ∧ t.Wrote (es ++ added) ∧
        t.definitions = t₀.definitions) (Idle t₀) := by
  cases c with
  | create request =>
    unfold TargetCall.perform
    refine Triple.bind (M := fun _ t => ∃ added, Adds t₀ (.create request) added t ∧
      t.Wrote (es ++ added) ∧ t.definitions = t₀.definitions)
      (TargetEngine.createInstance_rule (fun _ ht => ht) ?_)
      fun _ => Triple.pure fun _ ht => ht
    intro d e a hfind hrecords hdraws
    refine (TargetEngine.accept_create h hdraws).ends ?_ fun _ ht => ht.elim
    intro _ t ⟨hstate, hdefinitions, hwrote⟩
    exact ⟨[.create e], .create hfind hrecords hdraws hstate, hwrote, hdefinitions⟩
  | modify key terminated activations =>
    have hwrote := TargetEngine.modifyInstance_wrote h ⟨key, terminated, activations⟩
    have hknown := TargetEngine.modifyInstance_known t₀ key terminated activations
    refine (hwrote.and hknown).conseq (fun _ ht => ⟨ht, ht⟩) ?_ ?_
    · intro _ t ⟨⟨hwrote, hstate, hdefinitions⟩, hthere⟩
      exact ⟨[.modify ⟨key, terminated, activations⟩], .modify hthere hstate, hwrote, hdefinitions⟩
    · -- a move that fails has not even drawn a key
      intro t ⟨ht, _⟩
      exact ⟨t₀.state.keys, [], .refl _, ht⟩
  | activate jobType limit =>
    unfold TargetCall.perform
    refine Triple.bind (M := fun _ t => ∃ added, Adds t₀ (.activate jobType limit) added t ∧
      t.Wrote (es ++ added) ∧ t.definitions = t₀.definitions) ?_
      fun _ => Triple.pure fun _ ht => ht
    refine (TargetEngine.activateJobs_wrote h jobType limit).ends ?_ fun _ ht => ht.elim
    intro jobs t ⟨hwrote, _, hstate, hdefinitions⟩
    exact ⟨[], .activate hstate, by rwa [List.append_nil], hdefinitions⟩

/-- Jobs are handed out without a journal. -/
theorem TargetCall.activate_jammed (cause : FileError) (jobType : String) (limit : Nat)
    (t : TargetEngine) :
    (TargetEngine.jam cause (TargetCall.activate jobType limit).perform).run t =
      (TargetCall.activate jobType limit).perform.run t := rfl

/-- The rule for a call that the journal may not take: it is carried out, or it draws keys at most. -/
theorem TargetStep.perform_rule {t₀ : TargetEngine} {c : TargetStep}
    {Q : Unit → TargetEngine → Prop} {R : TargetEngine → Prop}
    (hcall : Triple (fun t => t = t₀) c.call.perform Q R) (hidle : ∀ t, Idle t₀ t → R t) :
    Triple (fun t => t = t₀) c.perform Q R := by
  obtain ⟨call, jammed⟩ := c
  cases jammed with
  | none => exact hcall
  | some cause =>
    cases call with
    | create request =>
      refine TargetEngine.jam_triple cause (Triple.bind (M := fun _ _ => False) ?_ ?_)
      · exact (TargetEngine.createInstance_broken cause request).ends
          (fun _ _ ht => ht) fun t ht => hidle _ ht
      · intro _ _ ht
        exact ht.elim
    | modify key terminated activations =>
      refine (TargetEngine.modifyInstance_jammed cause key terminated activations).ends
        (fun _ _ ht => ht.elim) ?_
      intro t ht
      exact hidle t ⟨t₀.state.keys, [], .refl _, ht⟩
    | activate jobType limit =>
      -- nothing is written, so the journal does not matter
      intro t ht
      have hrun := hcall t ht
      rw [← TargetCall.activate_jammed cause] at hrun
      exact hrun

/-- A call adds its entry and its effect, or it fails and draws keys at most. -/
theorem TargetStep.perform_wrote {t₀ : TargetEngine} {es : List JournalEntry} (h : t₀.Wrote es)
    (c : TargetStep) :
    Triple (fun t => t = t₀) c.perform
      (fun _ t => ∃ added, Adds t₀ c.call added t ∧ t.Wrote (es ++ added) ∧
        t.definitions = t₀.definitions) (Idle t₀) :=
  perform_rule (c.call.perform_wrote h) fun _ ht => ht

namespace TargetEngine

/-- What every call keeps holds after all of them. -/
theorem after_induction {I : TargetEngine → Prop} {t : TargetEngine} {steps : List TargetStep}
    (ht : I t) (hstep : ∀ c ∈ steps, ∀ t, I t → I (c.perform.run t).2) : I (t.after steps) := by
  induction steps generalizing t with
  | nil => exact ht
  | cons c steps ih =>
    refine ih (hstep c List.mem_cons_self t ht) ?_
    intro c' hc'
    exact hstep c' (List.mem_cons_of_mem c hc')

end TargetEngine
end ProcessMigration
