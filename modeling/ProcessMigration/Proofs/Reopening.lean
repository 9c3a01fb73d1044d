import ProcessMigration.Proofs.EntryReading
import ProcessMigration.Proofs.TargetCalls

/-!
# Opening the target engine again

The journal is the state: an engine that is opened on the journal of another one has its instances and
its waiting jobs, with no job handed out, and does not use a key of the journal again. There is one
exception. A call may carry a variable that is read back from its own text but nested so deeply that
the line of its entry is not; the call is accepted, and the journal can never be opened again.

* `TargetEngine.Told`: the entries of the journal tell the state of the engine;
* `TargetEngine.Told.perform`: every call keeps that;
* `TargetEngine.Told.reopens` and `TargetEngine.Told.stuck`: what becomes of the journal when it is
  opened;
* `TargetEngine.journal_tells_state`: all of it, for every list of calls;
* `TargetEngine.deep_variable_locks_journal`: the exception.
-/

namespace ProcessMigration

open ProcessMigration.Action (Triple)

/-! ## Keys -/

namespace KeyAllocator

variable {a : KeyAllocator} {key : Int}

/-- The keys of the next draws, as many as there are. -/
def draws : Nat → KeyAllocator → List Int
  | 0, _ => []
  | n + 1, a =>
    match a.next? with
    | none => []
    | some (key, a') => key :: draws n a'

/-- A key that was passed is not drawn any more. -/
theorem not_mem_draws (ha : a.Within) (hkey : a.Passed key) (n : Nat) : key ∉ draws n a := by
  induction n generalizing a with
  | zero => exact List.not_mem_nil
  | succ n ih =>
    unfold draws
    cases hnext : a.next? with
    | none => exact List.not_mem_nil
    | some p =>
      obtain ⟨drawn, a'⟩ := p
      have hdraws := draws_next? hnext
      have hnew := (hdraws.fresh ha drawn List.mem_cons_self).1
      intro hmem
      rcases List.mem_cons.1 hmem with rfl | hmem
      · exact hnew hkey
      · exact ih (hdraws.within ha) (hdraws.keepsPassed hkey) hmem

/-- The keys of the journal's partition have 64 bits. -/
theorem Passed.fits (h : a.Passed key) (ha : a.Within) : Key.Fits key := by
  have hpartition := h.1.trans ha.partition
  unfold Key.partition journalPartition Key.span at hpartition
  unfold Key.Fits
  omega

theorem Draws.fits {a' : KeyAllocator} {keys : List Int} (h : a.Draws a' keys) (ha : a.Within) :
    ∀ key ∈ keys, Key.Fits key := by
  intro key hkey
  exact (h.fresh ha key hkey).2.fits (h.within ha)

end KeyAllocator

/-! ## Reading a journal -/

namespace TargetEngine

variable {definitions : List Definition} {es : List JournalEntry} {t : TargetEngine} {path : String}

/-- The lines of entries that fit are read one by one. -/
theorem replay_lines {before : List JournalEntry} {s s' : TargetState} {number : Nat}
    {rest : List String} (hregular : ∀ e ∈ before, e.Regular) (hfits : ∀ e ∈ before, e.Fits)
    (hs : before.foldlM TargetState.apply s = .ok s') :
    replay path s number (before.map JournalEntry.line ++ rest) =
      replay path s' (number + before.length) rest := by
  induction before generalizing s number with
  | nil =>
    cases hs
    rfl
  | cons e before ih =>
    rw [List.foldlM_cons] at hs
    have hread : JournalEntry.read? e.line = some e := by
      rw [JournalEntry.read?_line (hregular e List.mem_cons_self),
        if_pos (hfits e List.mem_cons_self)]
    cases happly : s.apply e with
    | error message =>
      rw [happly] at hs
      cases hs
    | ok s₁ =>
      rw [happly] at hs
      have hlength : number + (e :: before).length = number + 1 + before.length := by
        rw [List.length_cons]
        omega
      rw [List.map_cons, List.cons_append, replay, JournalEntry.line_not_blank]
      simp only [Bool.false_eq_true, if_false, hread, happly]
      rw [hlength]
      exact ih (fun e' he => hregular e' (List.mem_cons_of_mem e he))
        (fun e' he => hfits e' (List.mem_cons_of_mem e he)) hs

/-- A journal whose entries fit is opened by applying them. -/
theorem open_of_holds {f : JournalFile} {s : TargetState} (hf : f.Holds es)
    (hregular : ∀ e ∈ es, e.Regular) (hfits : ∀ e ∈ es, e.Fits)
    (hs : es.foldlM TargetState.apply (.start definitions) = .ok s) (path : String) :
    TargetEngine.open definitions path f = .ok ⟨definitions, f, s⟩ := by
  obtain ⟨content, hcontent, hlines⟩ := hf.lines
  have hreplay : replay path (.start definitions) 1 (es.map JournalEntry.line) = .ok s := by
    have happlied : replay path (.start definitions) 1 (es.map JournalEntry.line ++ []) =
        replay path s (1 + es.length) [] := replay_lines hregular hfits hs
    rw [List.append_nil] at happlied
    exact happlied
  rw [open_eq hcontent, hlines, hreplay]
  rfl

/-- At the first entry without room for its nesting, opening a journal fails. -/
theorem open_stuck {f : JournalFile} (before after : List JournalEntry) {e : JournalEntry}
    {s : TargetState} (hf : f.Holds (before ++ e :: after))
    (hregular : ∀ e' ∈ before ++ e :: after, e'.Regular) (hbefore : ∀ b ∈ before, b.Fits)
    (hs : before.foldlM TargetState.apply (.start definitions) = .ok s) (he : ¬e.Fits)
    (path : String) :
    TargetEngine.open definitions path f = .error (.undecodable path (before.length + 1)) := by
  obtain ⟨content, hcontent, hlines⟩ := hf.lines
  have hread : JournalEntry.read? e.line = none := by
    rw [JournalEntry.read?_line (hregular e (by simp)), if_neg he]
  have hreplay : replay path (.start definitions) 1
      ((before ++ e :: after).map JournalEntry.line) =
        .error (.undecodable path (before.length + 1)) := by
    rw [List.map_append, List.map_cons,
      replay_lines (fun b hb => hregular b (List.mem_append_left _ hb)) hbefore hs, replay,
      JournalEntry.line_not_blank]
    simp only [Bool.false_eq_true, if_false, hread]
    rw [Nat.add_comm]
  rw [open_eq hcontent, hlines, hreplay]
  rfl

end TargetEngine

/-! ## What the journal tells -/

/-- Adding the entries to the state before any gives these instances and jobs. The allocators need not
agree: keys may have been drawn in vain, and no entry tells that. -/
def TargetState.ToldBy (definitions : List Definition) (es : List JournalEntry) (s : TargetState) :
    Prop :=
  ∃ s', es.foldlM TargetState.apply (.start definitions) = .ok s' ∧
    s'.instances = s.instances ∧ s'.outstanding = s.outstanding

namespace TargetState.ToldBy

variable {definitions : List Definition} {es : List JournalEntry} {s : TargetState}

/-- An entry more tells the state that it leads to. -/
theorem add {t : TargetState} {e : JournalEntry} (h : s.ToldBy definitions es)
    (hadd : ∀ s' : TargetState, s'.instances = s.instances → s'.outstanding = s.outstanding →
      ∃ t', s'.apply e = .ok t' ∧ t'.instances = t.instances ∧ t'.outstanding = t.outstanding) :
    t.ToldBy definitions (es ++ [e]) := by
  obtain ⟨s', hs', hinstances, houtstanding⟩ := h
  obtain ⟨t', ht', hsame⟩ := hadd s' hinstances houtstanding
  refine ⟨t', ?_, hsame⟩
  rw [List.foldlM_append, hs']
  show [e].foldlM TargetState.apply s' = .ok t'
  rw [List.foldlM_cons, ht']
  rfl

theorem create (h : s.ToldBy definitions es) (a : KeyAllocator) (e : StartedInstance) :
    ((s.withKeys a).create e).ToldBy definitions (es ++ [.create e]) := by
  apply h.add
  intro s' hinstances houtstanding
  refine ⟨s'.create e, rfl, ?_, ?_⟩
  · show s'.instances.filter _ ++ _ = s.instances.filter _ ++ _
    rw [hinstances]
  · show s'.outstanding ++ _ = s.outstanding ++ _
    rw [houtstanding]

theorem modify {m : ModifiedInstance} (h : s.ToldBy definitions es)
    (hknown : (s.instance? m.instanceKey).isSome) :
    (s.modify m).ToldBy definitions (es ++ [.modify m]) := by
  apply h.add
  intro s' hinstances houtstanding
  refine ⟨s'.modify m, ?_, ?_, ?_⟩
  · have hthere : (s'.instance? m.instanceKey).isSome := by
      unfold TargetState.instance? at hknown ⊢
      rw [hinstances]
      exact hknown
    exact if_pos hthere
  · show s'.instances.map _ = s.instances.map _
    rw [hinstances]
  · show s'.outstanding.filter _ = s.outstanding.filter _
    rw [houtstanding]

end TargetState.ToldBy

/-- What a creation writes down is of 64 bits and read back, as far as the caller's part is. -/
theorem TargetEngine.Records.regular {request : CreateRequest} {d : Definition}
    {e : StartedInstance} {a a' : KeyAllocator} (h : Records request d e) (ha : a.Within)
    (hdraws : a.Draws a' (TargetState.keysOf e)) (hkey : Key.Fits d.key)
    (hvars : Variables.ReadBack request.vars) : e.Regular := by
  have hfits := hdraws.fits ha
  constructor
  case instanceKey => exact hfits _ (TargetState.instanceKey_mem_keysOf e)
  case definitionKey =>
    rw [h.definitionKey]
    exact hkey
  case elementKey =>
    intro key hmem
    refine hfits key (List.mem_append_left _ (List.mem_cons_of_mem _ ?_))
    exact Option.mem_toList.2 hmem
  case jobs => exact fun j hj => hfits _ (TargetState.jobKey_mem_keysOf (List.mem_map_of_mem hj))
  case vars =>
    rw [h.vars]
    exact hvars

/-- What a caller passes: keys of 64 bits, and variables that are read back from their texts. -/
def TargetCall.Regular : TargetCall → Prop
  | create request => Variables.ReadBack request.vars
  | modify _ terminatedKey activations =>
    Key.Fits terminatedKey ∧ ∀ a ∈ activations, Variables.ReadBack a.vars
  | activate _ _ => True

namespace TargetEngine

variable {definitions : List Definition} {es : List JournalEntry} {t : TargetEngine}

/-- The engine on an absent journal. -/
def fresh (definitions : List Definition) : TargetEngine := ⟨definitions, .absent, .start definitions⟩

theorem open_absent (definitions : List Definition) (path : String) :
    TargetEngine.open definitions path .absent = .ok (fresh definitions) := rfl

/-- The entries of the journal tell the state of the engine. -/
structure Told (definitions : List Definition) (es : List JournalEntry) (t : TargetEngine) :
    Prop where
  wrote : t.Wrote es
  deployed : t.definitions = definitions
  regular : ∀ e ∈ es, e.Regular
  state : ∃ s, es.foldlM TargetState.apply (.start definitions) = .ok s ∧
    s.instances = t.state.instances ∧ s.outstanding = t.state.outstanding

/-- What an engine has of the one on whose journal it was opened. -/
structure Restores (t t' : TargetEngine) : Prop where
  journal : t'.journal = t.journal
  definitions : t'.definitions = t.definitions
  instances : t'.state.instances = t.state.instances
  outstanding : t'.state.outstanding = t.state.outstanding
  handedOut : t'.state.handedOut = []

/-- Journal, instances and jobs are as they were. -/
structure Unchanged (t t' : TargetEngine) : Prop where
  journal : t'.journal = t.journal
  instances : t'.state.instances = t.state.instances
  outstanding : t'.state.outstanding = t.state.outstanding
  handedOut : t'.state.handedOut = t.state.handedOut

/-- A call that fails leaves the journal, the instances and the jobs as they were. -/
theorem Wrote.unchanged_of_error (h : t.Wrote es) {c : TargetStep} {e : ConnectorError}
    {t' : TargetEngine} (hrun : c.perform.run t = (.error e, t')) : Unchanged t t' := by
  have hcall := c.perform_wrote h t rfl
  rw [hrun] at hcall
  obtain ⟨a, keys, _, rfl⟩ := hcall
  exact ⟨rfl, rfl, rfl, rfl⟩

namespace Told

theorem fresh (definitions : List Definition) : Told definitions [] (fresh definitions) where
  wrote := wrote_start definitions
  deployed := rfl
  regular e he := by cases he
  state := ⟨_, rfl, rfl, rfl⟩

/-- With room for all of its entries, a journal that is opened gives the state back, and no key of it
is drawn again. -/
theorem reopens (h : Told definitions es t) (hfits : ∀ e ∈ es, e.Fits) (path : String) :
    ∃ t', TargetEngine.open definitions path t.journal = .ok t' ∧ Restores t t' ∧
      ∀ n, ∀ key ∈ es.flatMap JournalEntry.keys, key ∉ t'.state.keys.draws n := by
  obtain ⟨s, hs, hinstances, houtstanding⟩ := h.state
  have hopen : TargetEngine.open definitions path t.journal = .ok ⟨definitions, t.journal, s⟩ :=
    open_of_holds h.wrote.recorded.journal h.regular hfits hs path
  obtain ⟨hwrote, _, _, hhanded⟩ := open_wrote h.wrote hopen
  refine ⟨_, hopen, ⟨rfl, h.deployed.symm, hinstances, houtstanding, hhanded⟩, ?_⟩
  intro n key hkey
  exact KeyAllocator.not_mem_draws hwrote.state.keys (hwrote.recorded.passed key hkey) n

/-- At the first entry without room for its nesting, opening the journal fails. -/
theorem stuck {before after : List JournalEntry} {e : JournalEntry}
    (h : Told definitions (before ++ e :: after) t) (hbefore : ∀ b ∈ before, b.Fits)
    (he : ¬e.Fits) (path : String) :
    TargetEngine.open definitions path t.journal =
      .error (.undecodable path (before.length + 1)) := by
  obtain ⟨s, hs, _, _⟩ := h.state
  -- what stands before the entry is read, and what that leads to does not matter
  rw [List.foldlM_append] at hs
  cases hbegin : before.foldlM TargetState.apply (.start definitions) with
  | error message =>
    rw [hbegin] at hs
    cases hs
  | ok s₁ => exact open_stuck before after h.wrote.recorded.journal h.regular hbefore hbegin he path

/-- An entry more that tells the new state is told as well. -/
theorem add {t' : TargetEngine} {e : JournalEntry} (h : Told definitions es t)
    (hwrote : t'.Wrote (es ++ [e])) (hdeployed : t'.definitions = t.definitions) (he : e.Regular)
    (hstate : t'.state.ToldBy definitions (es ++ [e])) : Told definitions (es ++ [e]) t' := by
  refine ⟨hwrote, hdeployed.trans h.deployed, ?_, hstate⟩
  intro e' he'
  rcases List.mem_append.1 he' with he' | he'
  · exact h.regular e' he'
  · exact List.mem_singleton.1 he' ▸ he

theorem create {t' : TargetEngine} {request : CreateRequest} {d : Definition}
    {e : StartedInstance} {a : KeyAllocator} (h : Told definitions es t)
    (hkey : ∀ d ∈ definitions, Key.Fits d.key) (hvars : Variables.ReadBack request.vars)
    (hfind : t.definitions.find? (fun d => d.key == request.definitionKey) = some d)
    (hrecords : Records request d e) (hdraws : t.state.keys.Draws a (TargetState.keysOf e))
    (hstate : t'.state = (t.state.withKeys a).create e) (hwrote : t'.Wrote (es ++ [.create e]))
    (hdeployed : t'.definitions = t.definitions) : Told definitions (es ++ [.create e]) t' := by
  have hd : d ∈ definitions := h.deployed ▸ List.mem_of_find?_eq_some hfind
  have hregular : e.Regular := hrecords.regular h.wrote.state.keys hdraws (hkey d hd) hvars
  refine h.add hwrote hdeployed hregular ?_
  rw [hstate]
  exact TargetState.ToldBy.create h.state a e

theorem modify {t' : TargetEngine} {m : ModifiedInstance} (h : Told definitions es t)
    (hterminated : Key.Fits m.terminatedKey)
    (hvars : ∀ a ∈ m.activations, Variables.ReadBack a.vars)
    (hknown : (t.state.instance? m.instanceKey).isSome) (hstate : t'.state = t.state.modify m)
    (hwrote : t'.Wrote (es ++ [.modify m])) (hdeployed : t'.definitions = t.definitions) :
    Told definitions (es ++ [.modify m]) t' := by
  obtain ⟨i, hi, hkey⟩ := List.find?_isSome.1 hknown
  have hregular : m.Regular := by
    refine ⟨?_, hterminated, hvars⟩
    have hpassed := h.wrote.state.instancesPassed i hi
    rw [beq_iff_eq.1 hkey] at hpassed
    exact hpassed.fits h.wrote.state.keys
  refine h.add hwrote hdeployed hregular ?_
  rw [hstate]
  exact TargetState.ToldBy.modify h.state hknown

/-- Keys that were drawn in vain are not told, and need not be. -/
theorem idle {t' : TargetEngine} (h : Told definitions es t) (hidle : Idle t t') :
    Told definitions es t' := by
  have hwrote := hidle.wrote h.wrote
  obtain ⟨a, keys, hdraws, rfl⟩ := hidle
  exact ⟨hwrote, h.deployed, h.regular, h.state⟩

/-- Every call keeps what the journal tells. -/
theorem perform (h : Told definitions es t) (hkey : ∀ d ∈ definitions, Key.Fits d.key)
    (c : TargetStep) (hc : c.call.Regular) : ∃ es', Told definitions es' (c.perform.run t).2 := by
  have hcall : Triple (fun t₀ => t₀ = t) c.perform
      (fun _ t' => ∃ es', Told definitions es' t') fun t' => ∃ es', Told definitions es' t' := by
    refine (c.perform_wrote h.wrote).ends ?_ fun t' ht => ⟨es, h.idle ht⟩
    rintro _ t' ⟨added, hadds, hwrote, hdeployed⟩
    obtain ⟨call, jammed⟩ := c
    dsimp only at hadds hc
    cases hadds with
    | create hfind hrecords hdraws hstate =>
      exact ⟨_, h.create hkey hc hfind hrecords hdraws hstate hwrote hdeployed⟩
    | modify hknown hstate =>
      exact ⟨_, h.modify hc.1 hc.2 hknown hstate hwrote hdeployed⟩
    | activate hstate =>
      rw [List.append_nil] at hwrote
      refine ⟨es, hwrote, hdeployed.trans h.deployed, h.regular, ?_⟩
      rw [hstate]
      exact h.state
  exact hcall.state rfl

end Told

theorem failed_call (h : Told definitions es t) {c : TargetStep} {e : ConnectorError}
    {t' : TargetEngine} (hrun : c.perform.run t = (.error e, t')) : Unchanged t t' :=
  h.wrote.unchanged_of_error hrun

theorem told_after (hkey : ∀ d ∈ definitions, Key.Fits d.key) {steps : List TargetStep}
    (hsteps : ∀ c ∈ steps, c.call.Regular) :
    ∃ es, Told definitions es ((fresh definitions).after steps) := by
  refine after_induction (I := fun t => ∃ es, Told definitions es t) ⟨[], .fresh definitions⟩ ?_
  rintro c hc t ⟨es, hes⟩
  exact hes.perform hkey c (hsteps c hc)

end TargetEngine

/-! ## Nested variables -/

/-- So many arrays inside each other. -/
def Json.nested : Nat → Json
  | 0 => .null
  | n + 1 => .array [nested n]

theorem Json.readable_nested (n : Nat) : (nested n).Readable := by
  induction n with
  | zero => exact readable_null
  | succ n ih =>
    apply readable_array
    intro x hx
    rw [List.mem_singleton.1 hx]
    exact ih

theorem Json.value?_nested (n : Nat) : (nested n).document.value? = some (nested n) := by
  induction n with
  | zero => rfl
  | succ n ih =>
    simp [nested, Json.document, Json.documents, Document.value?, Document.itemValues?, ih]

theorem Json.depth_nested (n : Nat) : (nested n).document.depth = n := by
  induction n with
  | zero => rfl
  | succ n ih =>
    show max (nested n).document.depth 0 + 1 = n + 1
    rw [ih, Nat.max_zero]

theorem Json.readsBack_nested {n : Nat} (h : n < Decoder.textRoom) : (nested n).ReadsBack :=
  readsBack_iff.2 ⟨readable_nested n, value?_nested n, by rwa [depth_nested]⟩

namespace TargetEngine

/-- A process without a start event. -/
def order : Definition := ⟨7, "order", 1, none, ["start"], none⟩

/-- A request with a variable that is nested this deeply. -/
def nestedRequest (depth : Nat) : CreateRequest :=
  ⟨7, "order", none, SortedMap.empty.insert "v" (.nested depth)⟩

/-- The entry of the instance that such a request starts on an absent journal. -/
def nestedEntry (depth : Nat) : JournalEntry :=
  .create ⟨Key.base journalPartition + 1, 7, "order", none, none, none, [],
    SortedMap.empty.insert "v" (.nested depth)⟩

theorem journal_nested (depth : Nat) :
    ((fresh [order]).after [⟨.create (nestedRequest depth), none⟩]).journal.Holds
      [nestedEntry depth] :=
  .inr ⟨(nestedEntry depth).line ++ "\n", rfl, by simp [JournalEntry.journalChars]⟩

theorem fits_order : ∀ d ∈ [order], Key.Fits d.key := by
  intro d hd
  rw [List.mem_singleton.1 hd]
  exact ⟨by decide, by decide⟩

theorem readBack_nested {depth : Nat} (h : depth < Decoder.textRoom) :
    Variables.ReadBack (nestedRequest depth).vars := by
  intro v hv
  rw [List.mem_singleton.1 hv]
  exact Json.readsBack_nested h

/-! ## The journal and the state -/

variable {definitions : List Definition}

/-- The journal with these entries is the state of the engine, as far as it can be read. -/
structure JournalTells (definitions : List Definition) (path : String) (es : List JournalEntry)
    (t : TargetEngine) : Prop where
  holds : t.journal.Holds es
  /-- With room for the nesting of every entry, an engine opened on the journal has the same state,
  with no job handed out, and draws no key of the journal. -/
  reopens : (∀ e ∈ es, e.Fits) →
    ∃ t', TargetEngine.open definitions path t.journal = .ok t' ∧ Restores t t' ∧
      ∀ n, ∀ key ∈ es.flatMap JournalEntry.keys, key ∉ t'.state.keys.draws n
  /-- Otherwise the journal cannot be opened, on account of the first entry without room. -/
  stuck : ∀ before e after, es = before ++ e :: after → (∀ b ∈ before, b.Fits) → ¬e.Fits →
    TargetEngine.open definitions path t.journal = .error (.undecodable path (before.length + 1))
  /-- A call that fails changes neither the journal nor instances and jobs. -/
  failed : ∀ (c : TargetStep) (e : ConnectorError) (t' : TargetEngine),
    c.perform.run t = (.error e, t') → Unchanged t t'

/-- **The journal is the state** of an engine that was opened on an absent journal, whatever calls
were made and however many of them have failed, up to entries that are nested too deeply. -/
theorem journal_tells_state (definitions : List Definition)
    (hkey : ∀ d ∈ definitions, Key.Fits d.key) (path : String) (steps : List TargetStep)
    (hsteps : ∀ c ∈ steps, c.call.Regular) :
    ∃ t, TargetEngine.open definitions path .absent = .ok t ∧
      ∃ es, JournalTells definitions path es (t.after steps) := by
  obtain ⟨es, hes⟩ := told_after hkey hsteps
  refine ⟨fresh definitions, open_absent definitions path, es, ?_⟩
  refine ⟨hes.wrote.recorded.journal, fun hfits => hes.reopens hfits path, ?_, ?_⟩
  · rintro before e after rfl hbefore he
    exact hes.stuck hbefore he path
  · intro c e t' hrun
    exact failed_call hes hrun

/-- Calls of which three fail: the journal is jammed, and there is no such definition or instance. -/
def orderCalls : List TargetStep :=
  [⟨.create (nestedRequest 1), none⟩, ⟨.create (nestedRequest 2), some .isDirectory⟩,
    ⟨.create ⟨8, "order", none, .empty⟩, none⟩,
    ⟨.modify (Key.base journalPartition + 1) 3 [⟨"start", .empty⟩], none⟩, ⟨.modify 5 3 [], none⟩,
    ⟨.activate "migrator" 2, none⟩]

theorem regular_orderCalls : ∀ c ∈ orderCalls, c.call.Regular := by
  have hempty : Variables.ReadBack .empty := fun v hv => by cases hv
  simp only [orderCalls, List.forall_mem_cons]
  refine ⟨readBack_nested (by decide), readBack_nested (by decide), hempty,
    ⟨⟨by decide, by decide⟩, ?_⟩, ⟨⟨by decide, by decide⟩, ?_⟩, trivial, fun c hc => by cases hc⟩
  · intro a ha
    rw [List.mem_singleton.1 ha]
    exact hempty
  · intro a ha
    cases ha

theorem order_journal_tells_state :
    (∀ d ∈ [order], Key.Fits d.key) ∧ (∀ c ∈ orderCalls, c.call.Regular) ∧
      ∃ t, TargetEngine.open [order] "journal.jsonl" .absent = .ok t ∧
        ∃ es, JournalTells [order] "journal.jsonl" es (t.after orderCalls) := by
  exact ⟨fits_order, regular_orderCalls,
    journal_tells_state [order] fits_order "journal.jsonl" orderCalls regular_orderCalls⟩

/-- A variable with more than 125 levels is read back, and the call that carries it succeeds, but the
journal can never be opened again. -/
theorem deep_variable_locks_journal :
    (TargetCall.create (nestedRequest 126)).Regular ∧
      ((fresh [order]).after [⟨.create (nestedRequest 126), none⟩]).state.instances.length = 1 ∧
      TargetEngine.open [order] "journal.jsonl"
        ((fresh [order]).after [⟨.create (nestedRequest 126), none⟩]).journal =
          .error (.undecodable "journal.jsonl" 1) := by
  have hvars : Variables.ReadBack (nestedRequest 126).vars := readBack_nested (by decide)
  have hregular : (nestedEntry 126).Regular :=
    ⟨⟨by decide, by decide⟩, ⟨by decide, by decide⟩, fun key h => by (cases h),
      fun j hj => by (cases hj), hvars⟩
  have hdeep : ¬(nestedEntry 126).Fits := by
    intro hfits
    have hless := JournalEntry.fits_create_iff.1 hfits (.nested 126) List.mem_cons_self
    rw [Json.depth_nested] at hless
    exact absurd hless (by decide)
  refine ⟨hvars, rfl, ?_⟩
  refine open_stuck [] [] (journal_nested 126) ?_ (fun b hb => by cases hb) rfl hdeep
    "journal.jsonl"
  intro e he
  rw [List.mem_singleton.1 he]
  exact hregular

end TargetEngine
end ProcessMigration
