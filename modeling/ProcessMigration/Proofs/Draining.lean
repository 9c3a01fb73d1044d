import Mathlib.Data.Finset.Card
import ProcessMigration.Proofs.HandOverCases
import ProcessMigration.Proofs.Interruption
import ProcessMigration.Proofs.Passes

/-!
# Draining any target

A drain asks for jobs until an answer brings none that is new, so it is up to the target engine
when it ends. An engine may hand out the same jobs again and again, in any order, or one job twice
in an answer; as long as it has but so many keys, one of its answers brings nothing new.

* `FirstOfEach`: the jobs that come up first with their keys, in the order in which they do;
* `Migrator.Rounds` are the rounds of a drain that goes on, `Migrator.Ends` says how it ends;
  neither knows of a bound on the rounds;
* `Migrator.Rounds.firsts` and `Migrator.Rounds.counted`: a round hands over the new jobs of an
  answer, and counts each of them once, whichever of the outcomes it has that `Migrator.JobOutcome`
  lists;
* `Migrator.exists_ends`: after as many rounds as there are keys a drain has ended;
* `Migrator.Ends.drainRounds_run`: how it ends is what `drainRounds` does, with rounds enough;
* `Migrator.draining_ends`: all of it.
-/

namespace ProcessMigration

open ProcessMigration.Action (Triple)

/-! ## The first jobs of their keys -/

/-- These are the jobs that come up first with their keys, in the order in which they do. -/
structure FirstOfEach (jobs firsts : List Job) : Prop where
  /-- None of them has the key of another. -/
  distinct : (firsts.map (·.key)).Nodup
  /-- Each of them is the first job with its key. -/
  first : ∀ j ∈ firsts, jobs.find? (·.key == j.key) = some j
  /-- They stand in the order in which their keys come up. -/
  inOrder : firsts.Pairwise fun j j' =>
    jobs.findIdx (·.key == j.key) < jobs.findIdx (·.key == j'.key)
  /-- Every key that comes up is that of one of them. -/
  complete : ∀ j ∈ jobs, j.key ∈ firsts.map (·.key)

namespace FirstOfEach

variable {jobs firsts : List Job} {j : Job}

theorem nil : FirstOfEach [] [] where
  distinct := .nil
  first _ h := by cases h
  inOrder := .nil
  complete _ h := by cases h

theorem mem (h : FirstOfEach jobs firsts) (hj : j ∈ firsts) : j ∈ jobs :=
  List.mem_of_find?_eq_some (h.first j hj)

/-- The keys that come up are those of the first jobs. -/
theorem mem_keys_iff (h : FirstOfEach jobs firsts) {key : Int} :
    key ∈ firsts.map (·.key) ↔ key ∈ jobs.map (·.key) := by
  constructor
  · intro hkey
    obtain ⟨j, hj, rfl⟩ := List.mem_map.1 hkey
    exact List.mem_map_of_mem (h.mem hj)
  · intro hkey
    obtain ⟨j, hj, rfl⟩ := List.mem_map.1 hkey
    exact h.complete j hj

theorem card_keys (h : FirstOfEach jobs firsts) :
    (jobs.map (·.key)).toFinset.card = firsts.length := by
  have hsame : (jobs.map (·.key)).toFinset = (firsts.map (·.key)).toFinset := by
    ext key
    rw [List.mem_toFinset, List.mem_toFinset, h.mem_keys_iff]
  rw [hsame, List.toFinset_card_of_nodup h.distinct, List.length_map]

/-- Where a key comes up first does not change when jobs come up later. -/
theorem find?_append_of_mem (h : FirstOfEach jobs firsts) (hj : j ∈ firsts) (later : List Job) :
    (jobs ++ later).find? (·.key == j.key) = some j := by
  rw [List.find?_append, h.first j hj, Option.some_or]

theorem findIdx_append_of_mem (h : FirstOfEach jobs firsts) (hj : j ∈ firsts) (later : List Job) :
    (jobs ++ later).findIdx (·.key == j.key) = jobs.findIdx (·.key == j.key) := by
  rw [List.findIdx_append, if_pos (List.findIdx_lt_length.2 ⟨j, h.mem hj, beq_self_eq_true j.key⟩)]

theorem inOrder_append (h : FirstOfEach jobs firsts) (later : List Job) :
    firsts.Pairwise fun j j' =>
      (jobs ++ later).findIdx (·.key == j.key) < (jobs ++ later).findIdx (·.key == j'.key) := by
  apply h.inOrder.imp_of_mem
  intro j j' hj hj' hless
  rw [h.findIdx_append_of_mem hj, h.findIdx_append_of_mem hj']
  exact hless

/-- A job with a key that has come up is not the first. -/
theorem repeated (h : FirstOfEach jobs firsts) (hkey : j.key ∈ jobs.map (·.key)) :
    FirstOfEach (jobs ++ [j]) firsts where
  distinct := h.distinct
  first j' hj' := h.find?_append_of_mem hj' [j]
  inOrder := h.inOrder_append [j]
  complete j' hj' := by
    rcases List.mem_append.1 hj' with hold | hnew
    · exact h.complete j' hold
    · rw [List.mem_singleton.1 hnew]
      exact h.mem_keys_iff.2 hkey

/-- A job with a new key is. -/
theorem next (h : FirstOfEach jobs firsts) (hkey : j.key ∉ jobs.map (·.key)) :
    FirstOfEach (jobs ++ [j]) (firsts ++ [j]) where
  distinct := by
    rw [List.map_append, List.map_singleton]
    refine List.nodup_append.2 ⟨h.distinct, List.nodup_singleton _, ?_⟩
    rintro key hold _ hnew rfl
    rw [List.mem_singleton.1 hnew] at hold
    exact hkey (h.mem_keys_iff.1 hold)
  first j' hj' := by
    rcases List.mem_append.1 hj' with hold | hnew
    · exact h.find?_append_of_mem hold [j]
    · have hnone : jobs.find? (·.key == j.key) = none := by
        refine List.find?_eq_none.2 fun j'' hj'' hsame => hkey ?_
        exact beq_iff_eq.1 hsame ▸ List.mem_map_of_mem hj''
      rw [List.mem_singleton.1 hnew, List.find?_append, hnone, Option.none_or]
      exact List.find?_cons_of_pos (beq_self_eq_true _)
  inOrder := by
    refine List.pairwise_append.2 ⟨h.inOrder_append [j], List.pairwise_singleton _ _, ?_⟩
    intro j' hold j'' hnew
    have hnot : ¬jobs.findIdx (·.key == j.key) < jobs.length := by
      rw [List.findIdx_lt_length]
      rintro ⟨j₁, hj₁, hsame⟩
      exact hkey (beq_iff_eq.1 hsame ▸ List.mem_map_of_mem hj₁)
    have hbefore : jobs.findIdx (·.key == j'.key) < jobs.length :=
      List.findIdx_lt_length.2 ⟨j', h.mem hold, beq_self_eq_true j'.key⟩
    rw [List.mem_singleton.1 hnew, h.findIdx_append_of_mem hold, List.findIdx_append, if_neg hnot]
    omega
  complete j' hj' := by
    rw [List.map_append]
    rcases List.mem_append.1 hj' with hold | hnew
    · exact List.mem_append_left _ (h.complete j' hold)
    · rw [List.mem_singleton.1 hnew]
      exact List.mem_append_right _ List.mem_cons_self

/-- The new jobs of an answer are the next ones that come up first. -/
theorem answer (h : FirstOfEach jobs firsts) {seen : List Int}
    (hseen : ∀ key, key ∈ seen ↔ key ∈ jobs.map (·.key)) (answer : List Job) :
    FirstOfEach (jobs ++ answer) (firsts ++ (freshJobs answer seen).1) ∧
      ∀ key, key ∈ (freshJobs answer seen).2 ↔ key ∈ (jobs ++ answer).map (·.key) := by
  induction answer generalizing jobs firsts seen with
  | nil =>
    rw [List.append_nil]
    refine ⟨?_, hseen⟩
    rw [show (freshJobs [] seen).1 = [] from rfl, List.append_nil]
    exact h
  | cons j answer ih =>
    rw [List.append_cons]
    unfold freshJobs
    by_cases hkey : j.key ∈ jobs.map (·.key)
    · rw [if_pos (by rw [List.contains_eq_mem, decide_eq_true_eq, hseen]; exact hkey)]
      refine ih (h.repeated hkey) ?_
      intro key
      rw [hseen, List.map_append, List.mem_append, List.map_singleton, List.mem_singleton]
      exact ⟨.inl, fun hmem => hmem.elim id fun hsame => hsame ▸ hkey⟩
    · rw [if_neg (by rw [List.contains_eq_mem, decide_eq_true_eq, hseen]; exact hkey)]
      have hseen' : ∀ key, key ∈ j.key :: seen ↔ key ∈ (jobs ++ [j]).map (·.key) := by
        intro key
        rw [List.mem_cons, hseen, List.map_append, List.mem_append, List.map_singleton,
          List.mem_singleton, or_comm]
      have hnext := ih (h.next hkey) hseen'
      rw [List.append_assoc firsts] at hnext
      exact hnext

end FirstOfEach

/-- Some job of the answer has a key that no answer before it had. -/
def BringsNew (before : List (List Job)) (answer : List Job) : Prop :=
  ∃ j ∈ answer, j.key ∉ before.flatten.map (·.key)

/-! ## Counting -/

/-- The number of jobs that were dealt with. -/
def Report.dealt (r : Report) : Nat := r.jobsActivated + r.externallyStartedJobs + r.unresolvedJobs

namespace Migrator

variable {σ : Type} {m : Migrator σ} {job : Job} {r : Report}

theorem Finds.report_eq {legacyId : String} {key : Int} {s s₁ : RunState σ}
    {activations : List Activation} (h : Finds m legacyId key s activations s₁) :
    s₁.report = s.report := by
  cases h with
  | waiting => rfl
  | again => rfl

/-- A job that was dealt with is counted once, whatever has become of it. -/
theorem JobOutcome.counted {s s' : RunState σ} (h : JobOutcome m job s (.ok ()) s') :
    s'.report.dealt = s.report.dealt + 1 := by
  cases h with
  | foreign =>
    unfold Report.dealt
    dsimp only
    omega
  | unresolved =>
    unfold Report.dealt
    dsimp only
    omega
  | moved _ hfinds _ =>
    unfold Report.dealt
    dsimp only
    rw [hfinds.report_eq]
    omega

theorem handOver_counts (m : Migrator σ) (job : Job) :
    Triple (fun s => s.report = r) (m.handOver job) (fun _ s => s.report.dealt = r.dealt + 1)
      fun _ => True := by
  intro s hs
  obtain ⟨outcome, s', h⟩ := m.exists_jobOutcome job s
  rw [h.run]
  cases outcome with
  | error e => trivial
  | ok u =>
    rw [← hs]
    exact h.counted

theorem forAll_counts (m : Migrator σ) (jobs : List Job) :
    Triple (fun s => s.report = r) (Action.forAll jobs m.handOver)
      (fun _ s => s.report.dealt = r.dealt + jobs.length) fun _ => True := by
  refine (Triple.forAll (I := fun done (s : RunState σ) => s.report.dealt = r.dealt + done.length)
    ?_).pre ?_
  · intro done job rest _
    apply Triple.of_state
    intro s₀ hs₀
    refine (m.handOver_counts (r := s₀.report) job).conseq (fun s hs => congrArg _ hs) ?_
      fun _ hs => hs
    intro _ s hs
    rw [hs, hs₀, List.length_append, List.length_singleton, Nat.add_assoc]
  · intro s hs
    rw [hs]
    rfl

end Migrator

/-! ## Rounds -/

namespace Migrator

variable {σ : Type} {m : Migrator σ} {s₀ s s₁ : RunState σ} {answers : List (List Job)}
  {answer handed left : List Job} {seen : List Int} {r : Except MigrationError Unit}

/-- The question of a drain. -/
def askForJobs (m : Migrator σ) : Run σ (List Job) :=
  Run.engine (m.env.target.activateJobs m.settings.jobType m.settings.maxJobs)

/-- Rounds of a drain that goes on: the answers so far, the jobs that were handed over, and the keys
that were seen. -/
inductive Rounds (m : Migrator σ) (s₀ : RunState σ) :
    List (List Job) → List Job → List Int → RunState σ → Prop where
  | start : Rounds m s₀ [] [] [] s₀
  | round {answers : List (List Job)} {handed : List Job} {seen : List Int} {answer : List Job}
      {s s₁ s₂ : RunState σ} (before : Rounds m s₀ answers handed seen s)
      (answered : m.askForJobs.run s = (.ok answer, s₁)) (goesOn : (freshJobs answer seen).1 ≠ [])
      (dealt : (Action.forAll (freshJobs answer seen).1 m.handOver).run s₁ = (.ok (), s₂)) :
      Rounds m s₀ (answers ++ [answer]) (handed ++ (freshJobs answer seen).1)
        (freshJobs answer seen).2 s₂

/-- How a drain ends: the answers, the jobs that were handed over, the jobs that were left, and the
outcome. The last job handed over is the one at which it failed, if it failed at a job. -/
inductive Ends (m : Migrator σ) (s₀ : RunState σ) :
    List (List Job) → List Job → List Job → Except MigrationError Unit → RunState σ → Prop where
  | finished {answers : List (List Job)} {handed : List Job} {seen : List Int} {answer : List Job}
      {s s₁ : RunState σ} (before : Rounds m s₀ answers handed seen s)
      (answered : m.askForJobs.run s = (.ok answer, s₁))
      (nothing : (freshJobs answer seen).1 = []) :
      Ends m s₀ (answers ++ [answer]) handed [] (.ok ()) s₁
  | unanswered {answers : List (List Job)} {handed : List Job} {seen : List Int}
      {s s₁ : RunState σ} {e : MigrationError} (before : Rounds m s₀ answers handed seen s)
      (refused : m.askForJobs.run s = (.error e, s₁)) : Ends m s₀ answers handed [] (.error e) s₁
  | halted {answers : List (List Job)} {handed : List Job} {seen : List Int}
      {answer done left : List Job} {job : Job} {s s₁ s₂ s₃ : RunState σ} {e : MigrationError}
      (before : Rounds m s₀ answers handed seen s)
      (answered : m.askForJobs.run s = (.ok answer, s₁))
      (fresh : (freshJobs answer seen).1 = done ++ job :: left)
      (dealt : (Action.forAll done m.handOver).run s₁ = (.ok (), s₂))
      (failed : (m.handOver job).run s₂ = (.error e, s₃)) :
      Ends m s₀ (answers ++ [answer]) (handed ++ done ++ [job]) left (.error e) s₃

/-- After a question the drain ends, or it makes a round. -/
theorem Rounds.next (h : Rounds m s₀ answers handed seen s) :
    (∃ answers' handed' left r s₁, Ends m s₀ answers' handed' left r s₁) ∨
      ∃ answer handed' seen' s', Rounds m s₀ (answers ++ [answer]) handed' seen' s' := by
  rcases hask : m.askForJobs.run s with ⟨r, s₁⟩
  cases r with
  | error e => exact .inl ⟨_, _, _, _, _, .unanswered h hask⟩
  | ok answer =>
    by_cases hnothing : (freshJobs answer seen).1 = []
    · exact .inl ⟨_, _, _, _, _, .finished h hask hnothing⟩
    · rcases hdeal : (Action.forAll (freshJobs answer seen).1 m.handOver).run s₁ with ⟨r, s₂⟩
      cases r with
      | ok u => exact .inr ⟨answer, _, _, s₂, .round h hask hnothing hdeal⟩
      | error e =>
        obtain ⟨done, job, left, s', hfresh, hdone, hfailed⟩ := Action.forAll_eq_error.1 hdeal
        exact .inl ⟨_, _, _, _, _, .halted h hask hfresh hdone hfailed⟩

/-! ## What rounds do -/

/-- Where an answer stands among the earlier ones and the last. -/
theorem split_concat {before after : List (List Job)} {last : List Job}
    (h : answers ++ [last] = before ++ answer :: after) :
    (answers = before ∧ last = answer ∧ after = []) ∨
      (after ≠ [] ∧ ∃ after', answers = before ++ answer :: after') := by
  rcases List.eq_nil_or_concat after with rfl | ⟨after', last', rfl⟩
  · obtain ⟨hbefore, hlast⟩ := List.append_inj' h rfl
    exact .inl ⟨hbefore, List.singleton_inj.1 hlast, rfl⟩
  · rw [List.concat_eq_append] at h ⊢
    rw [← List.cons_append, ← List.append_assoc] at h
    exact .inr ⟨List.concat_ne_nil _ _, after', (List.append_inj' h rfl).1⟩

theorem flatten_concat (answers : List (List Job)) (answer : List Job) :
    (answers ++ [answer]).flatten = answers.flatten ++ answer := by
  rw [List.flatten_append, List.flatten_singleton]

/-- Rounds hand over the jobs that come up first with their keys. -/
theorem Rounds.firsts (h : Rounds m s₀ answers handed seen s) :
    FirstOfEach answers.flatten handed ∧
      ∀ key, key ∈ seen ↔ key ∈ answers.flatten.map (·.key) := by
  induction h with
  | start => exact ⟨.nil, fun _ => Iff.rfl⟩
  | @round answers handed seen answer _ _ _ _ _ _ _ ih =>
    rw [flatten_concat]
    exact ih.1.answer ih.2 answer

/-- An answer brings a new key if and only if some of its jobs are new. -/
theorem Rounds.bringsNew_iff (h : Rounds m s₀ answers handed seen s) (answer : List Job) :
    BringsNew answers answer ↔ (freshJobs answer seen).1 ≠ [] := by
  obtain ⟨hfirsts, hseen⟩ := h.firsts
  have hanswer := (hfirsts.answer hseen answer).1
  constructor
  · rintro ⟨j, hj, hnew⟩ hnone
    rw [hnone, List.append_nil] at hanswer
    exact hnew (hfirsts.mem_keys_iff.1 (hanswer.complete j (List.mem_append_right _ hj)))
  · intro hsome
    obtain ⟨j, hj⟩ := List.exists_mem_of_ne_nil _ hsome
    refine ⟨j, (freshJobs_sublist answer seen).subset hj, ?_⟩
    intro hold
    have hdistinct := hanswer.distinct
    rw [List.map_append] at hdistinct
    exact (List.nodup_append.1 hdistinct).2.2 _ (hfirsts.mem_keys_iff.2 hold) _
      (List.mem_map_of_mem hj) rfl

/-- Each answer of the rounds brings a new key. -/
theorem Rounds.goOn (h : Rounds m s₀ answers handed seen s) {before after : List (List Job)}
    (hsplit : answers = before ++ answer :: after) : BringsNew before answer := by
  induction h generalizing after with
  | start => exact absurd hsplit.symm (List.append_ne_nil_of_right_ne_nil _ (List.cons_ne_nil _ _))
  | @round answers _ _ answer' _ _ _ hbefore _ hgoes _ ih =>
    rcases split_concat hsplit with ⟨rfl, rfl, _⟩ | ⟨_, after', hearlier⟩
    · exact (hbefore.bringsNew_iff answer').2 hgoes
    · exact ih hearlier

theorem askForJobs_report (h : m.askForJobs.run s = (.ok answer, s₁)) : s₁.report = s.report := by
  rcases hrun : (m.env.target.activateJobs m.settings.jobType m.settings.maxJobs).run s.world with
    ⟨answered, w⟩
  unfold askForJobs at h
  rw [Run.engine_run hrun] at h
  obtain ⟨-, rfl⟩ := Prod.mk.inj h
  rfl

/-- Rounds count the jobs that they hand over. -/
theorem Rounds.counted (h : Rounds m s₀ answers handed seen s) :
    s.report.dealt = s₀.report.dealt + handed.length := by
  induction h with
  | start => rfl
  | @round _ handed seen answer s s₁ s₂ _ hanswered _ hdealt ih =>
    have hround := m.forAll_counts (r := s₁.report) (freshJobs answer seen).1 s₁ rfl
    rw [hdealt] at hround
    rw [show s₂.report.dealt = _ from hround, askForJobs_report hanswered, ih, List.length_append,
      Nat.add_assoc]

/-- A round hands over at least one job. -/
theorem Rounds.length_le (h : Rounds m s₀ answers handed seen s) :
    answers.length ≤ handed.length := by
  induction h with
  | start => exact Nat.le_refl 0
  | round _ _ hgoes _ ih =>
    have hpos := List.length_pos_iff.2 hgoes
    rw [List.length_append, List.length_append, List.length_singleton]
    omega

/-! ## How a drain ends -/

/-- The jobs that are handed over, and those that are left, come up first with their keys. -/
theorem Ends.firsts (h : Ends m s₀ answers handed left r s₁) :
    FirstOfEach answers.flatten (handed ++ left) := by
  cases h with
  | @finished answers handed seen answer _ _ hbefore _ hnothing =>
    obtain ⟨hfirsts, hseen⟩ := hbefore.firsts
    have hanswer := (hfirsts.answer hseen answer).1
    rw [hnothing] at hanswer
    rw [flatten_concat]
    exact hanswer
  | unanswered hbefore _ =>
    rw [List.append_nil]
    exact hbefore.firsts.1
  | @halted answers handed seen answer _ _ _ _ _ _ _ _ hbefore _ hfresh _ _ =>
    obtain ⟨hfirsts, hseen⟩ := hbefore.firsts
    have hanswer := (hfirsts.answer hseen answer).1
    rw [hfresh] at hanswer
    rw [flatten_concat]
    simpa using hanswer

/-- Jobs are left only if the last one handed over is where the drain failed. -/
theorem Ends.halts (h : Ends m s₀ answers handed left r s₁) (hleft : left ≠ []) :
    ∃ job e s, handed.getLast? = some job ∧ r = .error e ∧
      (m.handOver job).run s = (.error e, s₁) := by
  cases h with
  | finished => exact absurd rfl hleft
  | unanswered => exact absurd rfl hleft
  | halted _ _ _ _ hfailed => exact ⟨_, _, _, List.getLast?_concat, rfl, hfailed⟩

/-- An answer is the last one of a drain that ends well if and only if it brings nothing new. -/
theorem Ends.stops (h : Ends m s₀ answers handed left r s₁) {before after : List (List Job)}
    (hsplit : answers = before ++ answer :: after) :
    BringsNew before answer ↔ ¬(r = .ok () ∧ after = []) := by
  cases h with
  | @finished answers' _ _ answer' _ _ hbefore _ hnothing =>
    rcases split_concat hsplit with ⟨rfl, rfl, hlast⟩ | ⟨hmore, after', hearlier⟩
    · rw [hbefore.bringsNew_iff]
      exact ⟨fun hnew => absurd hnothing hnew, fun hnot => absurd ⟨rfl, hlast⟩ hnot⟩
    · exact ⟨fun _ hend => hmore hend.2, fun _ => hbefore.goOn hearlier⟩
  | unanswered hbefore _ => exact ⟨fun _ hend => (by cases hend.1), fun _ => hbefore.goOn hsplit⟩
  | @halted answers' _ seen answer' done left job _ _ _ _ _ hbefore _ hfresh _ _ =>
    refine ⟨fun _ hend => (by cases hend.1), ?_⟩
    intro _
    rcases split_concat hsplit with ⟨rfl, rfl, _⟩ | ⟨_, after', hearlier⟩
    · rw [hbefore.bringsNew_iff, hfresh]
      exact List.append_ne_nil_of_right_ne_nil _ (List.cons_ne_nil _ _)
    · exact hbefore.goOn hearlier

/-- A drain that ends well has counted every key that came up. -/
theorem Ends.counted (h : Ends m s₀ answers handed left (.ok ()) s₁) :
    s₁.report.dealt = s₀.report.dealt + (answers.flatten.map (·.key)).toFinset.card := by
  rw [h.firsts.card_keys]
  cases h with
  | finished hbefore hanswered _ =>
    rw [askForJobs_report hanswered, hbefore.counted, List.append_nil]

/-! ## Rounds with a bound -/

/-- A round, after the answer. -/
theorem drainRounds_answered (h : m.askForJobs.run s = (.ok answer, s₁)) (rounds : Nat)
    (seen : List Int) : (m.drainRounds (rounds + 1) seen).run s =
      if (freshJobs answer seen).1 = [] then (.ok (), s₁)
      else (Action.forAll (freshJobs answer seen).1 m.handOver >>= fun _ =>
        m.drainRounds rounds (freshJobs answer seen).2).run s₁ := by
  conv => lhs; unfold drainRounds
  rw [Action.run_bind_ok (show (Run.engine _).run s = _ from h)]
  rcases freshJobs answer seen with ⟨fresh, seen'⟩
  cases fresh <;> rfl

/-- Each round takes one of those that are left. -/
theorem Rounds.drainRounds_run (h : Rounds m s₀ answers handed seen s) (rounds : Nat) :
    (m.drainRounds (answers.length + rounds) []).run s₀ = (m.drainRounds rounds seen).run s := by
  induction h generalizing rounds with
  | start => rw [List.length_nil, Nat.zero_add]
  | round _ hanswered hgoes hdealt ih =>
    rw [List.length_append, List.length_singleton, Nat.add_assoc, Nat.add_comm 1, ih,
      drainRounds_answered hanswered, if_neg hgoes]
    exact Action.run_bind_ok hdealt _

/-- With more rounds than it makes before it ends, the bound does not matter. -/
theorem Ends.drainRounds_run (h : Ends m s₀ answers handed left r s₁) :
    ∃ before handed' seen s, Rounds m s₀ before handed' seen s ∧
      ∀ rounds, before.length < rounds → (m.drainRounds rounds []).run s₀ = (r, s₁) := by
  cases h with
  | finished hbefore hanswered hnothing =>
    refine ⟨_, _, _, _, hbefore, ?_⟩
    intro rounds hrounds
    obtain ⟨more, rfl⟩ := Nat.exists_eq_add_of_lt hrounds
    rw [Nat.add_assoc, hbefore.drainRounds_run, drainRounds_answered hanswered, if_pos hnothing]
  | unanswered hbefore hrefused =>
    refine ⟨_, _, _, _, hbefore, ?_⟩
    intro rounds hrounds
    obtain ⟨more, rfl⟩ := Nat.exists_eq_add_of_lt hrounds
    rw [Nat.add_assoc, hbefore.drainRounds_run]
    exact Action.run_bind_error hrefused _
  | halted hbefore hanswered hfresh hdealt hfailed =>
    refine ⟨_, _, _, _, hbefore, ?_⟩
    intro rounds hrounds
    obtain ⟨more, rfl⟩ := Nat.exists_eq_add_of_lt hrounds
    rw [Nat.add_assoc, hbefore.drainRounds_run, drainRounds_answered hanswered, hfresh,
      if_neg (by simp)]
    exact Action.run_bind_error
      (Action.forAll_eq_error.2 ⟨_, _, _, _, rfl, hdealt, hfailed⟩) _

/-- A drain does its rounds and gives up whatever waits then. -/
theorem drain_run (m : Migrator σ) (s₀ : RunState σ) :
    m.drain.run s₀ = (m.drainRounds (m.env.target.jobBound s₀.world + 1) [] >>= fun _ =>
      Run.giveUp).run s₀ := by
  unfold drain
  exact Action.run_bind_ok (Action.run_get s₀) _

/-! ## Keys that are finitely many -/

/-- Whatever a drain is answered, the keys are among these. -/
def AnswersWithin (m : Migrator σ) (s₀ : RunState σ) (keys : Finset Int) : Prop :=
  ∀ answers handed seen s answer s₁, Rounds m s₀ answers handed seen s →
    m.askForJobs.run s = (.ok answer, s₁) → ∀ j ∈ answer, j.key ∈ keys

section

variable {keys : Finset Int} (hkeys : m.AnswersWithin s₀ keys)
include hkeys

theorem Rounds.key_mem (h : Rounds m s₀ answers handed seen s) {j : Job}
    (hj : j ∈ answers.flatten) : j.key ∈ keys := by
  induction h with
  | start => cases hj
  | round hbefore hanswered _ _ ih =>
    rw [flatten_concat] at hj
    exact (List.mem_append.1 hj).elim ih (hkeys _ _ _ _ _ _ hbefore hanswered j)

/-- A drain that goes on has had fewer answers than there are keys. -/
theorem Rounds.length_le_card (h : Rounds m s₀ answers handed seen s) :
    answers.length ≤ keys.card := by
  have hsubset : (answers.flatten.map (·.key)).toFinset ⊆ keys := by
    intro key hkey
    obtain ⟨j, hj, rfl⟩ := List.mem_map.1 (List.mem_toFinset.1 hkey)
    exact h.key_mem hkeys hj
  calc answers.length ≤ handed.length := h.length_le
    _ = (answers.flatten.map (·.key)).toFinset.card := h.firsts.1.card_keys.symm
    _ ≤ keys.card := Finset.card_le_card hsubset

theorem Ends.length_le_card (h : Ends m s₀ answers handed left r s₁) :
    answers.length ≤ keys.card + 1 := by
  cases h with
  | finished hbefore _ _ =>
    rw [List.length_append, List.length_singleton]
    exact Nat.succ_le_succ (hbefore.length_le_card hkeys)
  | unanswered hbefore _ => exact Nat.le_succ_of_le (hbefore.length_le_card hkeys)
  | halted hbefore _ _ _ _ =>
    rw [List.length_append, List.length_singleton]
    exact Nat.succ_le_succ (hbefore.length_le_card hkeys)

/-- It cannot go on for ever. -/
theorem exists_ends : ∃ answers handed left r s₁, Ends m s₀ answers handed left r s₁ := by
  have hgoes : ∀ n, (∃ answers handed left r s₁, Ends m s₀ answers handed left r s₁) ∨
      ∃ answers handed seen s, Rounds m s₀ answers handed seen s ∧ answers.length = n := by
    intro n
    induction n with
    | zero => exact .inr ⟨_, _, _, _, .start, rfl⟩
    | succ n ih =>
      rcases ih with hends | ⟨answers, handed, seen, s, hrounds, rfl⟩
      · exact .inl hends
      · refine hrounds.next.imp_right ?_
        rintro ⟨answer, handed', seen', s', hrounds'⟩
        exact ⟨_, handed', seen', s', hrounds', List.length_append⟩
  refine (hgoes (keys.card + 1)).resolve_right ?_
  rintro ⟨answers, handed, seen, s, hrounds, hlength⟩
  have hfew := hrounds.length_le_card hkeys
  omega

end

/-! ## Everything at once -/

/-- What has come of a drain when it ends. -/
structure Settles (m : Migrator σ) (s₀ : RunState σ) (keys : Finset Int)
    (answers : List (List Job)) (handed left : List Job) (r : Except MigrationError Unit)
    (s₁ : RunState σ) : Prop where
  /-- It has had one answer more than there are keys, at most. -/
  few : answers.length ≤ keys.card + 1
  /-- Of each key the first job is handed over, in the order in which the keys come up. -/
  firsts : FirstOfEach answers.flatten (handed ++ left)
  /-- No job is left that came up, unless handing over one has failed. -/
  halts : left ≠ [] → ∃ job e s, handed.getLast? = some job ∧ r = .error e ∧
    (m.handOver job).run s = (.error e, s₁)
  /-- It ends well at the first answer that brings nothing new. -/
  stops : ∀ before answer after, answers = before ++ answer :: after →
    (BringsNew before answer ↔ ¬(r = .ok () ∧ after = []))
  /-- Then it has counted every key that came up. -/
  counted : r = .ok () →
    s₁.report.dealt = s₀.report.dealt + (answers.flatten.map (·.key)).toFinset.card
  /-- More rounds than there are keys make no difference. -/
  rounds : ∀ rounds, keys.card < rounds → (m.drainRounds rounds []).run s₀ = (r, s₁)
  /-- When it has ended well, nothing waits any more. -/
  drained : keys.card ≤ m.env.target.jobBound s₀.world → r = .ok () →
    ∃ s₂, m.drain.run s₀ = (.ok (), s₂) ∧ s₂.pending = .empty ∧ s₂.world = s₁.world ∧
      s₂.report = s₁.report
  failed : keys.card ≤ m.env.target.jobBound s₀.world → ∀ e, r = .error e →
    m.drain.run s₀ = (.error e, s₁)

/-- **Draining ends** against every target engine whose answers draw their keys from a finite set,
and however it ends, it has handed over what came up, each job with one of its outcomes. -/
theorem draining_ends (m : Migrator σ) (s₀ : RunState σ) (keys : Finset Int)
    (hkeys : m.AnswersWithin s₀ keys) :
    (∃ answers handed left r s₁, Ends m s₀ answers handed left r s₁) ∧
      (∀ answers handed left r s₁, Ends m s₀ answers handed left r s₁ →
        Settles m s₀ keys answers handed left r s₁) ∧
      ∀ job s r s', (m.handOver job).run s = (r, s') ↔ JobOutcome m job s r s' := by
  refine ⟨exists_ends hkeys, ?_, fun _ _ _ _ => handOver_run_iff⟩
  intro answers handed left r s₁ h
  obtain ⟨before, _, _, _, hbefore, hrun⟩ := h.drainRounds_run
  have hfew := hbefore.length_le_card hkeys
  -- each round before the end brought a new key, so there are no more of them than keys
  have hrounds : ∀ rounds, keys.card < rounds → (m.drainRounds rounds []).run s₀ = (r, s₁) := by
    intro rounds hmore
    exact hrun rounds (Nat.lt_of_le_of_lt hfew hmore)
  refine ⟨h.length_le_card hkeys, h.firsts, h.halts, fun _ _ _ => h.stops, ?_, hrounds, ?_, ?_⟩
  · rintro rfl
    exact h.counted
  · rintro hbound rfl
    refine ⟨{ s₁ with pending := .empty, givenUp := s₁.givenUp ++ s₁.pending.legacyIds }, ?_, rfl,
      rfl, rfl⟩
    rw [drain_run]
    exact Action.run_bind_ok (hrounds _ (Nat.lt_succ_of_le hbound)) _
  · rintro hbound e rfl
    rw [drain_run]
    exact Action.run_bind_error (hrounds _ (Nat.lt_succ_of_le hbound)) _

/-- A job of an instance that somebody else started, one whose instance waits, and one whose
instance has no mapping record. -/
def strangeJob : Job := ⟨1, "migrator", 10, 11, "start", .empty⟩

def waitingJob : Job :=
  ⟨2, "migrator", 20, 21, "start", SortedMap.empty.insert legacyIdVariable (.string "a")⟩

def unmappedJob : Job :=
  ⟨3, "migrator", 30, 31, "start", SortedMap.empty.insert legacyIdVariable (.string "b")⟩

/-- Answers with a job twice, with jobs that were handed out before, and with the same jobs ever
after. -/
def stubbornAnswer : Nat → List Job
  | 0 => [waitingJob, strangeJob, waitingJob]
  | 1 => [strangeJob, unmappedJob]
  | _ => [unmappedJob, strangeJob]

/-- Nothing else can be asked of the engines, and nothing is mapped. -/
def stubborn : Migrator Nat where
  settings := {}
  pipeline := .empty
  env :=
    { source :=
        { count := Action.fail ⟨.source, "count", ""⟩
          listAfter := fun _ _ => Action.fail ⟨.source, "list", ""⟩
          find? := fun _ => Action.fail ⟨.source, "find", ""⟩
          activityTree := fun _ => Action.fail ⟨.source, "activity_tree", ""⟩
          variablesOf := fun _ => Action.fail ⟨.source, "variables", ""⟩
          completedBefore := fun _ _ => Action.fail ⟨.source, "completed", ""⟩ }
      target :=
        { createInstance := fun _ => Action.fail ⟨.target, "create_instance", ""⟩
          modifyInstance := fun _ _ _ => pure ()
          searchDefinitions := fun _ => Action.fail ⟨.target, "search", ""⟩
          activateJobs := fun _ _ asked => (.ok (stubbornAnswer asked), asked + 1)
          jobBound := fun _ => 3 }
      store :=
        { latest? := pure none
          «exists» := fun _ => pure false
          targetKey? := fun _ => pure none
          insert := fun _ => pure ()
          update := fun _ _ => pure ()
          countSkipped := pure 0
          skipped := fun _ _ => pure [] } }

/-- One instance waits. -/
def stubbornStart : RunState Nat where
  world := 0
  pending := Pending.empty.insert 20 ⟨"a", []⟩

theorem keys_stubbornAnswer (asked : Nat) :
    ∀ j ∈ stubbornAnswer asked, j.key ∈ ({1, 2, 3} : Finset Int) := by
  rcases asked with _ | _ | asked
  · decide
  · decide
  · show ∀ j ∈ [unmappedJob, strangeJob], j.key ∈ ({1, 2, 3} : Finset Int)
    decide

theorem answersWithin_stubborn (s₀ : RunState Nat) : stubborn.AnswersWithin s₀ {1, 2, 3} := by
  intro answers handed seen s answer s₁ _ hanswered
  cases hanswered
  exact keys_stubbornAnswer s.world

/-- The third answer is the first without a new key; each of the three jobs is counted, and each of
them has another outcome. -/
theorem stubborn_target_is_drained :
    stubborn.AnswersWithin stubbornStart {1, 2, 3} ∧
      ∃ s₁, Ends stubborn stubbornStart [stubbornAnswer 0, stubbornAnswer 1, stubbornAnswer 2]
          [waitingJob, strangeJob, unmappedJob] [] (.ok ()) s₁ ∧
        Settles stubborn stubbornStart {1, 2, 3}
          [stubbornAnswer 0, stubbornAnswer 1, stubbornAnswer 2]
          [waitingJob, strangeJob, unmappedJob] [] (.ok ()) s₁ ∧
        s₁.report.jobsActivated = 1 ∧ s₁.report.externallyStartedJobs = 1 ∧
        s₁.report.unresolvedJobs = 1 ∧
        ∃ s', JobOutcome stubborn waitingJob stubbornStart (.ok ()) s' ∧ s'.pending = .empty := by
  have hfirst : Rounds stubborn stubbornStart [stubbornAnswer 0] [waitingJob, strangeJob] _ _ :=
    .round .start rfl (List.cons_ne_nil _ _) rfl
  have hsecond : Rounds stubborn stubbornStart [stubbornAnswer 0, stubbornAnswer 1]
      [waitingJob, strangeJob, unmappedJob] _ _ :=
    .round hfirst rfl (List.cons_ne_nil _ _) rfl
  have hends : Ends stubborn stubbornStart
      [stubbornAnswer 0, stubbornAnswer 1, stubbornAnswer 2]
      [waitingJob, strangeJob, unmappedJob] [] (.ok ()) _ := .finished hsecond rfl rfl
  have hwithin := answersWithin_stubborn stubbornStart
  obtain ⟨-, hsettles, houtcome⟩ := draining_ends stubborn stubbornStart {1, 2, 3} hwithin
  exact ⟨hwithin, _, hends, hsettles _ _ _ _ _ hends, rfl, rfl, rfl, _,
    (houtcome waitingJob stubbornStart _ _).1 rfl, rfl⟩

end Migrator
end ProcessMigration
