import Mathlib.Data.List.TakeWhile
import ProcessMigration.Proofs.EntryReading
import ProcessMigration.Proofs.ReaderFuel
import ProcessMigration.Proofs.TargetEngine

/-!
# Lines behind a given text

A journal may have been written by someone else, with blank lines in it and with a last line that
nobody ended. The engine reads such a text, and writes behind it without looking at it.

* `TargetEngine.entries?`: the entries that lines hold, and `TargetEngine.replay_eq_ok_iff`: reading a
  journal is adding its entries;
* `Text.openLine`: what stands behind the last line feed, and `JournalFile.lines_behind`: the next
  line that is written goes on there;
* `JournalFile.TakesLine`: nothing but blanks of JSON stands there;
* `JournalFile.entries?_behind`: then written lines stand for themselves;
* `JournalFile.replay_behind`: otherwise no more can be read than before the open line.
-/

namespace ProcessMigration

/-! ## Lines -/

namespace Text

/-- The characters behind the last line feed. -/
def openLine (cs : List Char) : List Char := (cs.reverse.takeWhile (· ≠ '\n')).reverse

theorem not_mem_openLine (cs : List Char) : '\n' ∉ openLine cs := by
  intro hmem
  unfold openLine at hmem
  have hne := List.all_eq_true.1 List.all_takeWhile _ (List.mem_reverse.1 hmem)
  simp at hne

theorem openLine_of_not_mem {cs : List Char} (h : '\n' ∉ cs) : openLine cs = cs := by
  have hall : ∀ c ∈ cs.reverse, decide (c ≠ '\n') = true := by
    intro c hc
    apply decide_eq_true
    intro heq
    apply h
    exact heq ▸ List.mem_reverse.1 hc
  unfold openLine
  rw [List.takeWhile_eq_self_iff.2 hall, List.reverse_reverse]

/-- What ends with a line feed is cut by itself. -/
theorem linesFrom_append (current ended tail : List Char) :
    linesFrom current (ended ++ '\n' :: tail) =
      linesFrom current (ended ++ ['\n']) ++ linesFrom [] tail := by
  induction ended generalizing current with
  | nil => rfl
  | cons c ended ih =>
    by_cases hc : c = '\n'
    · -- the line ends here, and the next one begins with nothing
      subst hc
      show dropReturn current.reverse :: linesFrom [] (ended ++ '\n' :: tail) = _
      rw [ih]
      rfl
    · rw [List.cons_append, List.cons_append, linesFrom_cons hc, linesFrom_cons hc, ih]

/-- A text is cut up to its open line whatever stands there. -/
theorem exists_ended (cs : List Char) :
    ∃ ended, cs = ended ++ openLine cs ∧
      ∀ tail, linesFrom [] (ended ++ tail) = linesFrom [] ended ++ linesFrom [] tail := by
  have hsplit : cs.reverse = cs.reverse.takeWhile (· ≠ '\n') ++ cs.reverse.dropWhile (· ≠ '\n') :=
    List.takeWhile_append_dropWhile.symm
  refine ⟨(cs.reverse.dropWhile (· ≠ '\n')).reverse, ?_, ?_⟩
  · have hreverse := congrArg List.reverse hsplit
    rw [List.reverse_reverse, List.reverse_append] at hreverse
    exact hreverse
  · intro tail
    cases hrest : cs.reverse.dropWhile (· ≠ '\n') with
    | nil => rfl
    | cons c more =>
      -- what is dropped up to is a line feed
      have hc : c = '\n' := by
        have hhead := List.head?_dropWhile_not (fun c => decide (c ≠ '\n')) cs.reverse
        rw [hrest] at hhead
        simpa using hhead
      subst hc
      rw [List.reverse_cons, List.append_assoc]
      exact linesFrom_append [] more.reverse tail

/-- A line that nobody has ended yet. -/
theorem linesFrom_open {line : List Char} (h : '\n' ∉ line) (current : List Char) :
    linesFrom current line =
      if current.reverse ++ line = [] then [] else [current.reverse ++ line] := by
  induction line generalizing current with
  | nil => simp [linesFrom]
  | cons c line ih =>
    have hc : c ≠ '\n' := fun hc => h (hc ▸ List.mem_cons_self)
    rw [linesFrom_cons hc, ih fun hmem => h (List.mem_cons_of_mem _ hmem)]
    simp

end Text

/-! ## Entries -/

namespace TargetEngine

variable {path : String} {s s' : TargetState} {number : Nat}

/-- The entries that lines hold. -/
def entries? (lines : List String) : Option (List JournalEntry) :=
  (lines.filter fun line => !isBlankLine line).mapM JournalEntry.read?

theorem entries?_append (xs ys : List String) :
    entries? (xs ++ ys) =
      (entries? xs).bind fun before => (entries? ys).map fun after => before ++ after := by
  unfold entries?
  rw [List.filter_append, List.mapM_append]
  cases List.mapM JournalEntry.read? (xs.filter fun line => !isBlankLine line) with
  | none => rfl
  | some before =>
    cases List.mapM JournalEntry.read? (ys.filter fun line => !isBlankLine line) <;> rfl

theorem entries?_blank {line : String} (h : isBlankLine line = true) : entries? [line] = some [] := by
  unfold entries?
  rw [List.filter_cons_of_neg (by simp [h])]
  rfl

theorem entries?_line {line : String} (h : isBlankLine line = false) :
    entries? [line] = (JournalEntry.read? line).map fun e => [e] := by
  unfold entries?
  rw [List.filter_cons_of_pos (by simp [h]), List.filter_nil, List.mapM_cons, List.mapM_nil]
  cases JournalEntry.read? line <;> rfl

theorem entries?_cons (line : String) (rest : List String) :
    entries? (line :: rest) =
      (entries? [line]).bind fun before => (entries? rest).map fun after => before ++ after :=
  entries?_append [line] rest

/-- Reading a journal is adding its entries. -/
theorem replay_eq_ok_iff {lines : List String} :
    replay path s number lines = .ok s' ↔
      ∃ es, entries? lines = some es ∧ es.foldlM TargetState.apply s = .ok s' := by
  induction lines generalizing s number with
  | nil =>
    constructor
    · intro h
      cases h
      exact ⟨[], rfl, rfl⟩
    · rintro ⟨es, hes, h⟩
      cases hes
      cases h
      rfl
  | cons line rest ih =>
    rw [entries?_cons, replay]
    cases hblank : isBlankLine line with
    | true => simp [entries?_blank hblank, ih]
    | false =>
      rw [entries?_line hblank]
      cases hread : JournalEntry.read? line with
      | none => simp
      | some e =>
        cases happly : s.apply e with
        | error message => simp [happly, bind, Except.bind]
        | ok s₁ => simp [happly, bind, Except.bind, ih]

/-- Reading goes on behind lines that are read. -/
theorem replay_append (xs ys : List String) :
    replay path s number (xs ++ ys) =
      (replay path s number xs).bind fun s₁ => replay path s₁ (number + xs.length) ys := by
  induction xs generalizing s number with
  | nil => rfl
  | cons line xs ih =>
    have hnumber : number + (line :: xs).length = number + 1 + xs.length := by
      rw [List.length_cons]
      omega
    rw [List.cons_append, replay, replay, hnumber]
    split
    · exact ih
    · split
      · rfl
      · split
        · rfl
        · exact ih

/-- Written lines hold their entries if each of them is read back. -/
theorem entries?_lines_iff {es : List JournalEntry} :
    entries? (es.map JournalEntry.line) = some es ↔
      ∀ e ∈ es, JournalEntry.read? e.line = some e := by
  induction es with
  | nil => simp [entries?]
  | cons e es ih =>
    rw [List.map_cons, entries?_cons, entries?_line e.line_not_blank, List.forall_mem_cons, ← ih]
    cases JournalEntry.read? e.line with
    | none => simp
    | some e' => cases entries? (es.map JournalEntry.line) <;> simp

end TargetEngine

/-! ## Behind an open line -/

namespace JournalEntry

open TargetEngine (isBlankLine entries?)

variable {begun : List Char}

/-- Blanks of JSON in front of a written line change nothing. -/
theorem read?_of_blanks (h : ∀ c ∈ begun, Document.isSpace c = true) (e : JournalEntry) :
    read? (String.ofList (begun ++ e.line.toList)) = read? e.line := by
  have hdocument : Document.read? (String.ofList (begun ++ e.line.toList)) =
      Document.read? e.line := by
    unfold Document.read?
    rw [String.toList_ofList, Document.ofChars?_of_blanks h]
  unfold read? Decoder.ofText?
  rw [hdocument]

/-- What a written line goes on with is not blank. -/
theorem joined_not_blank (begun : List Char) (e : JournalEntry) :
    isBlankLine (String.ofList (begun ++ e.line.toList)) = false := by
  have hline := e.line_not_blank
  unfold isBlankLine at hline ⊢
  rw [String.toList_ofList, List.all_append, hline, Bool.and_false]

theorem isNumeral_of_isBlank {c : Char} (h : Text.isBlank c = true) : Json.isNumeral c = false := by
  apply Bool.eq_false_iff.2
  intro hnumeral
  simp only [Json.isNumeral, Bool.or_eq_true, decide_eq_true_eq] at hnumeral
  rcases hnumeral with ((((hdigit | rfl) | rfl) | rfl) | rfl) | rfl
  · have hlow : 48 ≤ c.toNat ∧ c.toNat ≤ 57 := by
      simp only [Char.isDigit, Bool.and_eq_true, decide_eq_true_eq] at hdigit
      exact ⟨hdigit.1, hdigit.2⟩
    simp [Text.isBlank, Text.inRanges, Text.blankRanges] at h
    omega
  all_goals exact absurd h (by decide)

/-- No entry can be read where a written line stands behind anything else than blanks of JSON, be it
blank in another way or an entry itself. -/
theorem read?_joined {es : List JournalEntry} (hread : entries? [String.ofList begun] = some es)
    (h : ¬∀ c ∈ begun, Document.isSpace c = true) (e : JournalEntry) :
    read? (String.ofList (begun ++ e.line.toList)) = none := by
  obtain ⟨more, hmore⟩ := e.line_head
  have hnone : Document.ofChars? (begun ++ e.line.toList) = none := by
    cases hblank : isBlankLine (String.ofList begun) with
    | true =>
      -- the first character that is no blank of JSON begins no value
      unfold isBlankLine at hblank
      rw [String.toList_ofList, List.all_eq_true] at hblank
      obtain ⟨c, rest, hskip⟩ : ∃ c rest, Document.skipSpace begun = c :: rest := by
        apply List.exists_cons_of_ne_nil
        intro hnil
        apply h
        exact List.dropWhile_eq_nil_iff.1 hnil
      have hc : Text.isBlank c = true :=
        hblank c ((List.dropWhile_sublist _).mem (hskip ▸ List.mem_cons_self))
      refine Document.ofChars?_none_of_head (Document.skipSpace_append _ hskip) ?_
        (isNumeral_of_isBlank hc)
      intro hmem
      simp only [List.mem_cons, List.not_mem_nil, or_false] at hmem
      rcases hmem with rfl | rfl | rfl | rfl | rfl | rfl
      all_goals exact absurd hc (by decide)
    | false =>
      rw [TargetEngine.entries?_line hblank] at hread
      obtain ⟨e', he', _⟩ := Option.map_eq_some_iff.1 hread
      obtain ⟨d, hd, _⟩ := Option.bind_eq_some_iff.1 he'
      have hdocument : Document.ofChars? begun = some d := by
        unfold Document.read? at hd
        rw [String.toList_ofList] at hd
        exact hd
      rw [hmore]
      exact Document.ofChars?_append_none hdocument rfl rfl more
  unfold read? Decoder.ofText? Document.read?
  rw [String.toList_ofList, hnone]
  rfl

end JournalEntry

namespace JournalFile

open TargetEngine (entries? replay)

variable {content content' : String} {es : List JournalEntry}

/-- A blank of JSON is blank. -/
theorem isBlank_of_isSpace {c : Char} (h : Document.isSpace c = true) : Text.isBlank c = true := by
  simp only [Document.isSpace, Bool.or_eq_true, decide_eq_true_eq] at h
  rcases h with ((rfl | rfl) | rfl) | rfl <;> decide

/-- Nothing but blanks of JSON stands behind the last line feed. -/
def TakesLine (content : String) : Prop :=
  ∀ c ∈ Text.openLine content.toList, Document.isSpace c = true

instance (content : String) : Decidable (TakesLine content) := List.decidableBAll _ _

/-- The first line that is written goes on with the open line. -/
theorem lines_behind {e : JournalEntry}
    (h : content'.toList = content.toList ++ JournalEntry.journalChars (e :: es)) :
    ∃ ended : List String,
      Text.lines content = ended ++ (if Text.openLine content.toList = [] then [] else
        [String.ofList (Text.openLine content.toList)]) ∧
      Text.lines content' = ended ++
        String.ofList (Text.openLine content.toList ++ e.line.toList) ::
          es.map JournalEntry.line := by
  obtain ⟨ended, hended, hcut⟩ := Text.exists_ended content.toList
  have hno := Text.not_mem_openLine content.toList
  generalize Text.openLine content.toList = begun at hended hno ⊢
  have hline : '\n' ∉ begun ++ e.line.toList := by
    intro hmem
    rcases List.mem_append.1 hmem with hmem | hmem
    · exact hno hmem
    · exact e.line_feed_not_mem_line hmem
  refine ⟨(Text.linesFrom [] ended).map String.ofList, ?_, ?_⟩
  · unfold Text.lines
    rw [hended, hcut, Text.linesFrom_open hno, List.map_append]
    by_cases hbegun : begun = [] <;> simp [hbegun]
  · have hchars : content'.toList =
        ended ++ ((begun ++ e.line.toList) ++ '\n' :: JournalEntry.journalChars es) := by
      rw [h, hended]
      simp [JournalEntry.journalChars]
    unfold Text.lines
    rw [hchars, hcut, Text.linesFrom_closed hline, List.map_append, List.map_cons,
      JournalEntry.lines_journalChars, List.map_map, List.reverse_nil, List.nil_append,
      Text.dropReturn_append_printable begun e.line_ne_nil fun _ hc => JournalEntry.printable_line hc]
    refine congrArg _ (congrArg _ (List.map_congr_left ?_))
    intro e _
    exact String.ofList_toList

/-- Behind a text that takes a line, written lines stand for themselves. -/
theorem entries?_behind (h : content'.toList = content.toList ++ JournalEntry.journalChars es)
    (htakes : es = [] ∨ TakesLine content) :
    entries? (Text.lines content') =
      entries? (Text.lines content ++ es.map JournalEntry.line) := by
  cases es with
  | nil =>
    have heq : content' = content := by
      rw [← String.toList_inj, h]
      simp [JournalEntry.journalChars]
    rw [heq, List.map_nil, List.append_nil]
  | cons e es =>
    have htakes := htakes.resolve_left (List.cons_ne_nil _ _)
    obtain ⟨ended, hlines, hlines'⟩ := lines_behind h
    have hblank : TargetEngine.isBlankLine (String.ofList (Text.openLine content.toList)) = true := by
      unfold TargetEngine.isBlankLine
      rw [String.toList_ofList, List.all_eq_true]
      intro c hc
      exact isBlank_of_isSpace (htakes c hc)
    -- the open line holds no entry, and the line that goes on with it holds the written one
    have hopen : entries? (Text.lines content) = entries? ended := by
      rw [hlines]
      split
      · rw [List.append_nil]
      · rw [TargetEngine.entries?_append, TargetEngine.entries?_blank hblank]
        cases entries? ended <;> simp
    have hjoined : entries? [String.ofList (Text.openLine content.toList ++ e.line.toList)] =
        entries? [e.line] := by
      rw [TargetEngine.entries?_line (e.joined_not_blank _),
        TargetEngine.entries?_line e.line_not_blank, JournalEntry.read?_of_blanks htakes]
    rw [hlines', TargetEngine.entries?_append, TargetEngine.entries?_append, hopen, List.map_cons,
      TargetEngine.entries?_cons, TargetEngine.entries?_cons e.line, hjoined]

/-- Behind any other text that is read, the first line that is written cannot be read. -/
theorem replay_behind {path : String} {s s' : TargetState}
    (h : content'.toList = content.toList ++ JournalEntry.journalChars es) (hes : es ≠ [])
    (htakes : ¬TakesLine content)
    (hreplay : replay path s 1 (Text.lines content) = .ok s') :
    replay path s 1 (Text.lines content') =
      .error (.undecodable path (Text.lines content).length) := by
  obtain ⟨e, es, rfl⟩ := List.exists_cons_of_ne_nil hes
  obtain ⟨ended, hlines, hlines'⟩ := lines_behind h
  have hbegun : Text.openLine content.toList ≠ [] := by
    intro hnil
    apply htakes
    intro c hc
    rw [hnil] at hc
    cases hc
  rw [if_neg hbegun] at hlines
  rw [hlines, TargetEngine.replay_append] at hreplay
  -- the ended lines are read as before, and then comes the open line with the first new one behind
  cases hbefore : replay path s 1 ended with
  | error e =>
    rw [hbefore] at hreplay
    simp only [Except.bind, reduceCtorEq] at hreplay
  | ok s₁ =>
    rw [hbefore] at hreplay
    obtain ⟨es', hentries, _⟩ := TargetEngine.replay_eq_ok_iff.1 hreplay
    rw [hlines', TargetEngine.replay_append, hbefore, Except.bind, replay, e.joined_not_blank,
      JournalEntry.read?_joined hentries htakes, hlines]
    simp [Nat.add_comm]

end JournalFile
end ProcessMigration
