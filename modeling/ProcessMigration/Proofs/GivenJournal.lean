import ProcessMigration.Proofs.JournalLines
import ProcessMigration.Proofs.Reopening

/-!
# Going on with a given journal

An engine is opened on a text that someone else may have written, and goes on with it. Whether the
journal can be opened again hangs on two things: how the given text ends, and whether the new entries
are read back from their lines. The engine looks at neither.

* `TargetEngine.Accepts`: which calls of a list were accepted, and the entries they have added;
* `TargetCall.perform_adds`: what one call adds to a given journal;
* `TargetEngine.accepts_after`: what all of them add;
* `TargetEngine.given_journal_reopens_iff`: when the journal can be opened again with all entries in
  order, and what happens otherwise;
* `TargetEngine.open_line_locks_journal`: a journal whose last line nobody has ended.
-/

namespace ProcessMigration

open ProcessMigration.Action (Triple)

/-! ## Keys of 64 bits -/

theorem Decoder.fits_of_int64 {room : Nat} {d : Document} {key : Int}
    (h : Decoder.int64 room d = some key) : Key.Fits key := by
  unfold Decoder.int64 Decoder.int at h
  split at h
  · split at h
    · next hbounds =>
      cases h
      unfold Key.Fits
      omega
    · cases h
  · cases h

namespace JournalEntry

theorem fits_of_startedOf? {r : Record} {s : StartedInstance} (h : startedOf? r = some s) :
    Key.Fits s.instanceKey := by
  unfold startedOf? at h
  obtain ⟨key, hkey, h⟩ := Option.bind_eq_some_iff.1 h
  obtain ⟨_, _, h⟩ := Option.bind_eq_some_iff.1 h
  obtain ⟨_, _, h⟩ := Option.bind_eq_some_iff.1 h
  obtain ⟨_, _, h⟩ := Option.bind_eq_some_iff.1 h
  obtain ⟨_, _, h⟩ := Option.bind_eq_some_iff.1 h
  obtain ⟨_, _, h⟩ := Option.bind_eq_some_iff.1 h
  obtain ⟨_, _, h⟩ := Option.bind_eq_some_iff.1 h
  obtain ⟨_, _, h⟩ := Option.bind_eq_some_iff.1 h
  cases h
  obtain ⟨d, _, hkey⟩ := Option.bind_eq_some_iff.1 hkey
  exact Decoder.fits_of_int64 hkey

theorem fits_of_ofCommand? {command : String} {record? : List String → Option Record}
    {s : StartedInstance} (h : ofCommand? command record? = some (.create s)) :
    Key.Fits s.instanceKey := by
  unfold ofCommand? at h
  split at h
  · obtain ⟨r, _, h⟩ := Option.bind_eq_some_iff.1 h
    obtain ⟨s', hs', heq⟩ := Option.map_eq_some_iff.1 h
    cases heq
    exact fits_of_startedOf? hs'
  · split at h
    · obtain ⟨r, _, h⟩ := Option.bind_eq_some_iff.1 h
      obtain ⟨m, _, heq⟩ := Option.map_eq_some_iff.1 h
      cases heq
    · cases h

/-- An instance that is read has a key of 64 bits. -/
theorem fits_of_read? {line : String} {s : StartedInstance} (h : read? line = some (.create s)) :
    Key.Fits s.instanceKey := by
  obtain ⟨d, _, hd⟩ := Option.bind_eq_some_iff.1 h
  unfold decode at hd
  obtain ⟨_, _, hd⟩ := Option.bind_eq_some_iff.1 hd
  split at hd
  · obtain ⟨command, _, hd⟩ := Option.bind_eq_some_iff.1 hd
    exact fits_of_ofCommand? hd
  · obtain ⟨tag, _, hd⟩ := Option.bind_eq_some_iff.1 hd
    obtain ⟨command, _, hd⟩ := Option.bind_eq_some_iff.1 hd
    exact fits_of_ofCommand? hd

end JournalEntry

/-- Keys are drawn in the partition of the journal, and those of instances have 64 bits. -/
structure TargetState.Keyed (s : TargetState) : Prop where
  keys : s.keys.Within
  instances : ∀ i ∈ s.instances, Key.Fits i.instanceKey

namespace TargetState.Keyed

variable {s : TargetState}

theorem start (definitions : List Definition) : (TargetState.start definitions).Keyed :=
  ⟨within_start definitions, fun _ hi => by cases hi⟩

theorem create (h : s.Keyed) {e : StartedInstance} (he : Key.Fits e.instanceKey) :
    (s.create e).Keyed := by
  refine ⟨h.keys.resumeAfterAll _, ?_⟩
  intro i hi
  rcases List.mem_append.1 hi with hi | hi
  · exact h.instances i (List.mem_filter.1 hi).1
  · rw [List.mem_singleton.1 hi]
    exact he

theorem modify (h : s.Keyed) (m : ModifiedInstance) : (s.modify m).Keyed := by
  refine ⟨h.keys, ?_⟩
  intro i hi
  obtain ⟨i', hi', rfl⟩ := List.mem_map.1 hi
  show Key.Fits (afterModify m i').instanceKey
  rw [instanceKey_afterModify]
  exact h.instances i' hi'

/-- The state after lines that were read. -/
theorem replay {path : String} {s' : TargetState} {number : Nat} {lines : List String}
    (h : s.Keyed) (hreplay : TargetEngine.replay path s number lines = .ok s') : s'.Keyed := by
  induction lines generalizing s number with
  | nil =>
    cases hreplay
    exact h
  | cons line rest ih =>
    unfold TargetEngine.replay at hreplay
    split at hreplay
    · exact ih h hreplay
    · split at hreplay
      · cases hreplay
      · next e hread =>
        split at hreplay
        · cases hreplay
        · next s₁ happly =>
          refine ih ?_ hreplay
          rw [eq_add_of_apply happly]
          cases e with
          | create e => exact h.create (JournalEntry.fits_of_read? hread)
          | modify m => exact h.modify m

end TargetState.Keyed

theorem TargetState.eq_addAll_of_foldlM {s s' : TargetState} {es : List JournalEntry}
    (h : es.foldlM TargetState.apply s = .ok s') : s' = s.addAll es := by
  induction es generalizing s with
  | nil =>
    cases h
    rfl
  | cons e es ih =>
    rw [List.foldlM_cons] at h
    cases happly : s.apply e with
    | error message =>
      rw [happly] at h
      cases h
    | ok s₁ =>
      rw [happly] at h
      rw [ih h, eq_add_of_apply happly]
      rfl

/-! ## What a call adds to a journal -/

/-- The file holds the given text and, behind it, the lines of these entries. -/
def JournalFile.HoldsBehind (content : String) (added : List JournalEntry) (f : JournalFile) :
    Prop :=
  ∃ content', f = .text content' ∧
    content'.toList = content.toList ++ JournalEntry.journalChars added

namespace JournalFile.HoldsBehind

variable {content : String} {added : List JournalEntry} {f : JournalFile}

theorem refl (content : String) : HoldsBehind content [] (.text content) :=
  ⟨content, rfl, by simp [JournalEntry.journalChars]⟩

/-- An entry more stands behind the others. -/
theorem append (h : HoldsBehind content added f) (e : JournalEntry) :
    ∃ f', f.append e.line = .ok f' ∧ HoldsBehind content (added ++ [e]) f' := by
  obtain ⟨content', rfl, hcontent⟩ := h
  refine ⟨_, rfl, _, rfl, ?_⟩
  simp [JournalEntry.journalChars, hcontent]

end JournalFile.HoldsBehind

namespace TargetEngine

variable {content : String} {added : List JournalEntry} {t₀ : TargetEngine}

/-- An entry that can be added to the state is accepted. -/
theorem accept_behind (operation : String) (h : t₀.journal.HoldsBehind content added)
    {e : JournalEntry} {s : TargetState} (happly : t₀.state.apply e = .ok s) :
    Triple (fun t => t = t₀) (accept operation e)
      (fun _ t => t.journal.HoldsBehind content (added ++ [e]) ∧ t.state = s ∧
        t.definitions = t₀.definitions) (fun _ => False) := by
  intro t ht
  subst ht
  obtain ⟨f', happend, hbehind⟩ := h.append e
  unfold Action.run accept
  simp only [happend, happly]
  exact ⟨hbehind, trivial, trivial⟩

/-- An accepted modification adds its entry; a refused one does nothing. -/
theorem modifyInstance_behind (h : t₀.journal.HoldsBehind content added) (m : ModifiedInstance) :
    Triple (fun t => t = t₀) (modifyInstance m.instanceKey m.terminatedKey m.activations)
      (fun _ t => t.journal.HoldsBehind content (added ++ [.modify m]) ∧
        t.state = t₀.state.modify m ∧ t.definitions = t₀.definitions) (fun t => t = t₀) := by
  unfold modifyInstance
  refine Triple.get_bind ?_
  split
  · next hthere =>
    have happly : t₀.state.apply (.modify m) = .ok (t₀.state.modify m) := if_pos hthere
    exact (accept_behind _ h happly).succeeds
  · exact Triple.fail fun _ ht => ht

end TargetEngine

/-- A call adds its entry and its effect to a given journal, or it fails and draws keys at most. -/
theorem TargetCall.perform_adds {content : String} {added : List JournalEntry} {t₀ : TargetEngine}
    (h : t₀.journal.HoldsBehind content added) (c : TargetCall) :
    Triple (fun t => t = t₀) c.perform
      (fun _ t => ∃ es, TargetEngine.Adds t₀ c es t ∧ t.journal.HoldsBehind content (added ++ es) ∧
        t.definitions = t₀.definitions) (TargetEngine.Idle t₀) := by
  cases c with
  | create request =>
    refine Triple.bind (M := fun _ t => ∃ es, TargetEngine.Adds t₀ (.create request) es t ∧
      t.journal.HoldsBehind content (added ++ es) ∧ t.definitions = t₀.definitions)
      (TargetEngine.createInstance_rule (fun _ ht => ht) ?_)
      fun _ => Triple.pure fun _ ht => ht
    intro d e a hfind hrecords hdraws
    have hjournal : (t₀.withKeys a).journal.HoldsBehind content added := h
    refine (TargetEngine.accept_behind "create_instance" hjournal rfl).ends ?_ fun _ ht => ht.elim
    intro _ t ⟨hbehind, hstate, hdefinitions⟩
    exact ⟨[.create e], .create hfind hrecords hdraws hstate, hbehind, hdefinitions⟩
  | modify key terminated activations =>
    have hbehind := TargetEngine.modifyInstance_behind h ⟨key, terminated, activations⟩
    have hknown := TargetEngine.modifyInstance_known t₀ key terminated activations
    refine (hbehind.and hknown).conseq (fun _ ht => ⟨ht, ht⟩) ?_ ?_
    · intro _ t ⟨⟨hbehind, hstate, hdefinitions⟩, hthere⟩
      exact ⟨[.modify ⟨key, terminated, activations⟩], .modify hthere hstate, hbehind, hdefinitions⟩
    · intro t ⟨ht, _⟩
      exact ⟨t₀.state.keys, [], .refl _, ht⟩
  | activate jobType limit =>
    -- jobs are handed out without a line
    intro t ht
    subst ht
    exact ⟨[], .activate rfl, by rwa [List.append_nil], rfl⟩

/-! ## What all calls add -/

namespace TargetEngine

variable {definitions : List Definition} {content : String} {old added : List JournalEntry}
  {t : TargetEngine}

/-- These entries were added by the calls of the list that were accepted, in order. -/
inductive Accepts : TargetEngine → List TargetStep → List JournalEntry → TargetEngine → Prop where
  | nil (t : TargetEngine) : Accepts t [] [] t
  | accepted {t t₁ t' : TargetEngine} {c : TargetStep} {steps : List TargetStep}
      {es es' : List JournalEntry} (run : c.perform.run t = (.ok (), t₁)) (adds : Adds t c.call es t₁)
      (rest : Accepts t₁ steps es' t') : Accepts t (c :: steps) (es ++ es') t'
  | refused {t t₁ t' : TargetEngine} {c : TargetStep} {steps : List TargetStep}
      {es : List JournalEntry} {e : ConnectorError} (run : c.perform.run t = (.error e, t₁))
      (rest : Accepts t₁ steps es t') : Accepts t (c :: steps) es t'

/-- An engine that goes on with a given journal: the given entries and the added ones tell its
state. -/
structure GoesOn (definitions : List Definition) (content : String) (old added : List JournalEntry)
    (t : TargetEngine) : Prop where
  deployed : t.definitions = definitions
  journal : t.journal.HoldsBehind content added
  told : t.state.ToldBy definitions (old ++ added)
  keyed : t.state.Keyed

namespace GoesOn

/-- An engine that has just been opened on a text. -/
theorem opened {path : String}
    (hopen : TargetEngine.open definitions path (.text content) = .ok t) :
    ∃ old, entries? (Text.lines content) = some old ∧ GoesOn definitions content old [] t ∧
      ∃ s, replay path (.start definitions) 1 (Text.lines content) = .ok s := by
  obtain ⟨content', s, hcontent, hreplay, rfl⟩ := replay_of_open hopen
  obtain rfl : content = content' := Except.ok.inj hcontent
  obtain ⟨old, hold, hs⟩ := replay_eq_ok_iff.1 hreplay
  have htold : s.ToldBy definitions (old ++ []) := by
    rw [List.append_nil]
    exact ⟨s, hs, rfl, rfl⟩
  have hkeyed := (TargetState.Keyed.start definitions).replay hreplay
  exact ⟨old, hold, ⟨rfl, .refl content, htold, hkeyed⟩, s, hreplay⟩

theorem idle {t' : TargetEngine} (h : GoesOn definitions content old added t) (hidle : Idle t t') :
    GoesOn definitions content old added t' := by
  obtain ⟨a, keys, hdraws, rfl⟩ := hidle
  exact ⟨h.deployed, h.journal, h.told, hdraws.within h.keyed.keys, h.keyed.instances⟩

theorem adds {t' : TargetEngine} {c : TargetCall} {es : List JournalEntry}
    (h : GoesOn definitions content old added t) (hadds : Adds t c es t')
    (hjournal : t'.journal.HoldsBehind content (added ++ es))
    (hdeployed : t'.definitions = t.definitions) :
    GoesOn definitions content old (added ++ es) t' := by
  refine ⟨hdeployed.trans h.deployed, hjournal, ?_, ?_⟩
  · rw [← List.append_assoc]
    cases hadds with
    | create _ _ _ hstate =>
      rw [hstate]
      exact h.told.create _ _
    | modify hknown hstate =>
      rw [hstate]
      exact h.told.modify hknown
    | activate hstate =>
      rw [hstate, List.append_nil]
      exact h.told
  · cases hadds with
    | create _ _ hdraws hstate =>
      rw [hstate]
      have hkey := hdraws.fits h.keyed.keys _ (TargetState.instanceKey_mem_keysOf _)
      have hkeyed : (t.state.withKeys _).Keyed :=
        ⟨hdraws.within h.keyed.keys, h.keyed.instances⟩
      exact hkeyed.create hkey
    | modify _ hstate =>
      rw [hstate]
      exact h.keyed.modify _
    | activate hstate =>
      rw [hstate]
      exact ⟨h.keyed.keys, h.keyed.instances⟩

/-- What a regular call adds is regular. -/
theorem regular {t' : TargetEngine} {c : TargetCall} {es : List JournalEntry}
    (h : GoesOn definitions content old added t) (hadds : Adds t c es t')
    (hkey : ∀ d ∈ definitions, Key.Fits d.key) (hc : c.Regular) : ∀ e ∈ es, e.Regular := by
  intro e he
  cases hadds with
  | create hfind hrecords hdraws _ =>
    rw [List.mem_singleton.1 he]
    have hd := h.deployed ▸ List.mem_of_find?_eq_some hfind
    exact hrecords.regular h.keyed.keys hdraws (hkey _ hd) hc
  | modify hknown _ =>
    rw [List.mem_singleton.1 he]
    obtain ⟨i, hi, hi'⟩ := List.find?_isSome.1 hknown
    have hfits := h.keyed.instances i hi
    rw [beq_iff_eq.1 hi'] at hfits
    exact ⟨hfits, hc.1, hc.2⟩
  | activate _ => cases he

end GoesOn

/-- What a list of calls adds to a given journal. -/
theorem accepts_after (h : GoesOn definitions content old added t) (steps : List TargetStep) :
    ∃ es, Accepts t steps es (t.after steps) ∧
      GoesOn definitions content old (added ++ es) (t.after steps) ∧
      ((∀ d ∈ definitions, Key.Fits d.key) → (∀ c ∈ steps, c.call.Regular) →
        ∀ e ∈ es, e.Regular) := by
  induction steps generalizing t added with
  | nil =>
    refine ⟨[], .nil t, ?_, fun _ _ e he => by cases he⟩
    rw [List.append_nil]
    exact h
  | cons c steps ih =>
    -- the state before a call says what the call may write, so `GoesOn` is carried along
    have hcall := TargetStep.perform_rule (c.call.perform_adds h.journal) (fun _ ht => ht) t rfl
    rcases hrun : c.perform.run t with ⟨r, t₁⟩
    have hafter : t.after (c :: steps) = t₁.after steps := by
      show TargetEngine.after (c.perform.run t).2 steps = _
      rw [hrun]
    rw [hrun] at hcall
    rw [hafter]
    cases r with
    | error e =>
      obtain ⟨es, hes, hgoes, hregular⟩ := ih (h.idle hcall)
      refine ⟨es, .refused hrun hes, hgoes, ?_⟩
      intro hkey hsteps
      exact hregular hkey fun c' hc' => hsteps c' (List.mem_cons_of_mem c hc')
    | ok _ =>
      obtain ⟨es₁, hadds, hjournal, hdeployed⟩ := hcall
      obtain ⟨es, hes, hgoes, hregular⟩ := ih (h.adds hadds hjournal hdeployed)
      refine ⟨es₁ ++ es, .accepted hrun hadds hes, ?_, ?_⟩
      · rw [← List.append_assoc]
        exact hgoes
      · intro hkey hsteps e he
        rcases List.mem_append.1 he with he | he
        · exact h.regular hadds hkey (hsteps c List.mem_cons_self) e he
        · exact hregular hkey (fun c' hc' => hsteps c' (List.mem_cons_of_mem c hc')) e he

/-! ## Opening the journal again -/

/-- An engine can be opened on the journal again, and it reads these entries. -/
structure Resumes (definitions : List Definition) (path : String) (es : List JournalEntry)
    (t : TargetEngine) : Prop where
  opened : ∃ t', TargetEngine.open definitions path t.journal = .ok t' ∧ Restores t t'
  entries : ∃ content, t.journal.content = .ok content ∧ entries? (Text.lines content) = some es

/-- What becomes of a given text with these entries when these have been added. -/
structure Continues (definitions : List Definition) (path content : String)
    (old added : List JournalEntry) (t : TargetEngine) : Prop where
  given : entries? (Text.lines content) = some old
  /-- Nothing of the given text is touched. -/
  journal : t.journal.HoldsBehind content added
  /-- An engine can be opened on the journal again and reads the old entries and the new ones in
  order, if and only if the given text took a line and each new entry is read back from its line. -/
  reopens : Resumes definitions path (old ++ added) t ↔
    (added = [] ∨ JournalFile.TakesLine content) ∧
      ∀ e ∈ added, JournalEntry.read? e.line = some e
  /-- Behind a text that did not take a line, the journal cannot be opened: the last line of the text
  has become another one. -/
  stuck : added ≠ [] → ¬JournalFile.TakesLine content →
    TargetEngine.open definitions path t.journal =
      .error (.undecodable path (Text.lines content).length)

theorem GoesOn.resumes {path content' : String} (h : GoesOn definitions content old added t)
    (hjournal : t.journal = .text content')
    (hentries : entries? (Text.lines content') = some (old ++ added)) :
    Resumes definitions path (old ++ added) t := by
  obtain ⟨s, hs, hinstances, houtstanding⟩ := h.told
  have hreplay : replay path (.start definitions) 1 (Text.lines content') = .ok s :=
    replay_eq_ok_iff.2 ⟨old ++ added, hentries, hs⟩
  have hopen : TargetEngine.open definitions path t.journal =
      .ok ⟨definitions, t.journal, s⟩ := by
    rw [hjournal, open_eq rfl, hreplay]
    rfl
  refine ⟨⟨_, hopen, rfl, h.deployed.symm, hinstances, houtstanding, ?_⟩, content', ?_, hentries⟩
  · rw [TargetState.eq_addAll_of_foldlM hs, TargetState.handedOut_addAll]
    rfl
  · rw [hjournal]
    rfl

theorem GoesOn.continues {path : String} (h : GoesOn definitions content old added t)
    (hold : entries? (Text.lines content) = some old)
    (hopens : ∃ s, replay path (.start definitions) 1 (Text.lines content) = .ok s) :
    Continues definitions path content old added t := by
  obtain ⟨s, hreplay⟩ := hopens
  obtain ⟨content', hjournal, hcontent⟩ := h.journal
  have hstuck : added ≠ [] → ¬JournalFile.TakesLine content →
      TargetEngine.open definitions path t.journal =
        .error (.undecodable path (Text.lines content).length) := by
    intro hadded htakes
    rw [hjournal, open_eq rfl, JournalFile.replay_behind hcontent hadded htakes hreplay]
    rfl
  constructor
  · exact hold
  · exact h.journal
  · constructor
    · intro hresumes
      have htakes : added = [] ∨ JournalFile.TakesLine content := by
        by_contra hnot
        obtain ⟨hadded, htakes⟩ := not_or.1 hnot
        obtain ⟨t', hopen, _⟩ := hresumes.opened
        rw [hstuck hadded htakes] at hopen
        cases hopen
      refine ⟨htakes, ?_⟩
      -- the given text holds the old entries, so the lines behind it hold the new ones
      obtain ⟨content'', hcontent'', hentries⟩ := hresumes.entries
      rw [hjournal] at hcontent''
      cases hcontent''
      rw [JournalFile.entries?_behind hcontent htakes, entries?_append, hold] at hentries
      obtain ⟨es, hes, heq⟩ := Option.map_eq_some_iff.1 hentries
      rw [List.append_cancel_left heq] at hes
      exact entries?_lines_iff.1 hes
    · rintro ⟨htakes, hread⟩
      apply h.resumes hjournal
      rw [JournalFile.entries?_behind hcontent htakes, entries?_append, hold,
        entries?_lines_iff.2 hread]
      rfl
  · exact hstuck

/-- **Going on with a given journal**: accepted calls add their entries behind the given text, and
the journal can be opened again if and only if the text took a line and each entry is read back; an
entry of a regular call is read back unless it is nested too deeply. -/
theorem given_journal_reopens_iff (definitions : List Definition) (path content : String)
    {t : TargetEngine} (hopen : TargetEngine.open definitions path (.text content) = .ok t)
    (steps : List TargetStep) :
    ∃ old added, Accepts t steps added (t.after steps) ∧
      Continues definitions path content old added (t.after steps) ∧
      ((∀ d ∈ definitions, Key.Fits d.key) → (∀ c ∈ steps, c.call.Regular) →
        ∀ e ∈ added, JournalEntry.read? e.line = some e ↔ e.Fits) := by
  obtain ⟨old, hold, hgoes, hreplay⟩ := GoesOn.opened hopen
  obtain ⟨added, haccepts, hgoes', hregular⟩ := accepts_after hgoes steps
  rw [List.nil_append] at hgoes'
  refine ⟨old, added, haccepts, hgoes'.continues hold hreplay, ?_⟩
  intro hkey hsteps e he
  -- a regular entry is written as it is; only one that is nested too deep is not read back
  rw [JournalEntry.read?_line (hregular hkey hsteps e he)]
  constructor
  · intro hread
    by_contra hdeep
    rw [if_neg hdeep] at hread
    cases hread
  · intro hfits
    exact if_pos hfits

/-! ## A journal with an open line -/

/-- The first instance on an absent journal. -/
def orderEntry : JournalEntry := nestedEntry 1

theorem fits_orderEntry : orderEntry.Fits := by
  apply JournalEntry.fits_create_iff.2
  intro v hv
  rw [List.mem_singleton.1 hv, Json.depth_nested]
  decide

theorem regular_orderEntry : orderEntry.Regular :=
  ⟨⟨by decide, by decide⟩, ⟨by decide, by decide⟩, fun key h => by (cases h),
    fun j hj => by (cases hj), readBack_nested (by decide)⟩

/-- An engine is opened on the line of an entry, whether the line is ended or not. -/
theorem open_order (hlines : Text.lines content = [orderEntry.line]) :
    TargetEngine.open [order] "journal.jsonl" (.text content) =
      .ok ⟨[order], .text content, (TargetState.start [order]).add orderEntry⟩ := by
  have hread : JournalEntry.read? orderEntry.line = some orderEntry := by
    rw [JournalEntry.read?_line regular_orderEntry, if_pos fits_orderEntry]
  have hreplay : replay "journal.jsonl" (.start [order]) 1 [orderEntry.line] =
      .ok ((TargetState.start [order]).add orderEntry) := by
    refine replay_eq_ok_iff.2 ⟨[orderEntry], ?_, rfl⟩
    rw [entries?_line orderEntry.line_not_blank, hread]
    rfl
  rw [open_eq rfl, hlines, hreplay]
  rfl

theorem lines_open (e : JournalEntry) : Text.lines e.line = [e.line] := by
  unfold Text.lines
  rw [Text.linesFrom_open e.line_feed_not_mem_line, List.reverse_nil, List.nil_append,
    if_neg e.line_ne_nil]
  simp

theorem lines_ended (e : JournalEntry) : Text.lines (e.line ++ "\n") = [e.line] := by
  have hchars : (e.line ++ "\n").toList = JournalEntry.journalChars [e] := by
    simp [JournalEntry.journalChars]
  unfold Text.lines
  rw [hchars, JournalEntry.lines_journalChars]
  simp

/-- A line that is ended takes another one. -/
theorem takesLine_ended (e : JournalEntry) : JournalFile.TakesLine (e.line ++ "\n") := by
  have hopen : Text.openLine (e.line ++ "\n").toList = [] := by
    unfold Text.openLine
    simp
  intro c hc
  rw [hopen] at hc
  cases hc

/-- A line that nobody has ended takes no other one. -/
theorem not_takesLine_line (e : JournalEntry) : ¬JournalFile.TakesLine e.line := by
  intro htakes
  obtain ⟨more, hmore⟩ := e.line_head
  have hbrace : '\x7b' ∈ Text.openLine e.line.toList := by
    rw [Text.openLine_of_not_mem e.line_feed_not_mem_line, hmore]
    exact List.mem_cons_self
  exact absurd (htakes _ hbrace) (by decide)

/-- Calls on a journal that someone else has written, of which three fail. The text takes a line, so
the journal can be opened again if none of the new entries is nested too deeply. -/
theorem ended_journal_reopens :
    JournalFile.TakesLine (orderEntry.line ++ "\n") ∧
      ∃ t, TargetEngine.open [order] "journal.jsonl" (.text (orderEntry.line ++ "\n")) = .ok t ∧
      ∃ old added, Accepts t orderCalls added (t.after orderCalls) ∧
        Continues [order] "journal.jsonl" (orderEntry.line ++ "\n") old added
          (t.after orderCalls) ∧
        ∀ e ∈ added, JournalEntry.read? e.line = some e ↔ e.Fits := by
  have hopen := open_order (lines_ended orderEntry)
  obtain ⟨old, added, haccepts, hcontinues, hread⟩ :=
    given_journal_reopens_iff [order] "journal.jsonl" _ hopen orderCalls
  exact ⟨takesLine_ended orderEntry, _, hopen, old, added, haccepts, hcontinues,
    hread fits_order regular_orderCalls⟩

theorem creates_next (content : String) :
    ∃ t', (TargetCall.create (nestedRequest 1)).perform.run
      ⟨[order], .text content, (TargetState.start [order]).add orderEntry⟩ = (.ok (), t') :=
  ⟨_, rfl⟩

/-- The line of an entry that nobody has ended is read; the next creation is accepted, and the
journal can never be opened again. -/
theorem open_line_locks_journal :
    ∃ t, TargetEngine.open [order] "journal.jsonl" (.text orderEntry.line) = .ok t ∧
      (∃ t', (TargetCall.create (nestedRequest 1)).perform.run t = (.ok (), t')) ∧
      TargetEngine.open [order] "journal.jsonl"
        (t.after [⟨.create (nestedRequest 1), none⟩]).journal =
          .error (.undecodable "journal.jsonl" 1) := by
  have hopen := open_order (lines_open orderEntry)
  obtain ⟨_, _, _, s, hreplay⟩ := GoesOn.opened hopen
  obtain ⟨t', hrun⟩ := creates_next orderEntry.line
  refine ⟨_, hopen, ⟨t', hrun⟩, ?_⟩
  -- the creation has appended a line
  have hcall := (TargetCall.create (nestedRequest 1)).perform_adds (.refl orderEntry.line)
    ⟨[order], .text orderEntry.line, (TargetState.start [order]).add orderEntry⟩ rfl
  rw [hrun] at hcall
  obtain ⟨es, hadds, ⟨content', hjournal, hcontent⟩, _⟩ := hcall
  have hes : es ≠ [] := by
    cases hadds
    exact List.cons_ne_nil _ _
  have hstuck := JournalFile.replay_behind hcontent hes (not_takesLine_line orderEntry) hreplay
  rw [lines_open] at hstuck
  have hafter : TargetEngine.after ⟨[order], .text orderEntry.line,
      (TargetState.start [order]).add orderEntry⟩ [⟨.create (nestedRequest 1), none⟩] = t' :=
    congrArg Prod.snd hrun
  rw [hafter, hjournal, open_eq rfl, hstuck]
  rfl

end TargetEngine
end ProcessMigration
