import ProcessMigration.Proofs.EntryReading
import ProcessMigration.Proofs.JournalLines

/-!
# The journal as a code of its entries

An entry without doubles among its variables is written on a line of its own and read back from it,
whatever its texts hold and however its variables are nested, as long as the reader goes that deep.
So a journal is a code for the list of its entries.

* `Json.Plain`: the values without doubles;
* `Json.Plain.readable` and `Json.Plain.value?_document`: such a value is read from its text, and is
  the value that it was;
* `JournalEntry.Plain.regular`: an entry of such values, nested no deeper than the reader goes, is
  regular;
* `JournalFile.appendAll_holds`: what a journal holds after entries were appended;
* `JournalEntry.journal_is_a_code`: the lines, their reading, and the journal that they make.
-/

namespace ProcessMigration

/-! ## Values without doubles -/

/-- A value without doubles: whole numbers have 64 bits, with a sign or without one, and the members
of an object ascend by key. -/
inductive Json.Plain : Json → Prop
  | null : Plain .null
  | bool (b : Bool) : Plain (.bool b)
  | int {n : Int} (hlow : -2 ^ 63 ≤ n) (hhigh : n < 2 ^ 64) : Plain (.int n)
  | string (s : String) : Plain (.string s)
  | array {xs : List Json} (hxs : ∀ x ∈ xs, Plain x) : Plain (.array xs)
  | object {es : List (String × Json)} (hkeys : es.Pairwise fun a b => a.1 < b.1)
      (hes : ∀ e ∈ es, Plain e.2) : Plain (.object es)

namespace Document

theorem itemValues?_documents {xs : List Json} (h : ∀ x ∈ xs, x.document.value? = some x) :
    itemValues? (Json.documents xs) = some xs := by
  induction xs with
  | nil => rfl
  | cons x xs ih =>
    rcases List.forall_mem_cons.1 h with ⟨hx, hxs⟩
    simp [Json.documents, itemValues?, hx, ih hxs]

theorem memberValues?_memberDocuments {es : List (String × Json)}
    (h : ∀ e ∈ es, e.2.document.value? = some e.2) :
    memberValues? (Json.memberDocuments es) = some es := by
  induction es with
  | nil => rfl
  | cons e es ih =>
    rcases List.forall_mem_cons.1 h with ⟨he, hes⟩
    simp [Json.memberDocuments, memberValues?, he, ih hes]

end Document

namespace Json

theorem readable_bool (b : Bool) : Readable (.bool b) := by
  intro fuel rest _ hfuel
  match fuel, b with
  | fuel + 1, true => rfl
  | fuel + 1, false => rfl

namespace Plain

variable {j : Json}

/-- The text of a value without doubles is read wherever it stands. -/
theorem readable (h : j.Plain) : j.Readable := by
  induction h with
  | null => exact readable_null
  | bool b => exact readable_bool b
  | int hlow hhigh => exact readable_int hlow hhigh
  | string s => exact readable_string s
  | array _ ih => exact readable_array ih
  | object _ _ ih => exact readable_object ih

/-- What is read is the value: members that ascend by key are neither moved nor dropped. -/
theorem value?_document (h : j.Plain) : j.document.value? = some j := by
  induction h with
  | null => rfl
  | bool b => rfl
  | int _ _ => rfl
  | string s => rfl
  | array _ ih => exact congrArg (Option.map Json.array) (Document.itemValues?_documents ih)
  | object hkeys _ ih =>
    refine (congrArg (Option.map ofMembers) (Document.memberValues?_memberDocuments ih)).trans ?_
    show some (Json.object _) = _
    rw [SortedMap.entries_ofList hkeys]

theorem readsBack (h : j.Plain) (hdepth : j.document.depth < Decoder.textRoom) : j.ReadsBack :=
  readsBack_iff.2 ⟨h.readable, h.value?_document, hdepth⟩

end Plain
end Json

/-! ## Entries without doubles -/

/-- No variable holds a double. -/
def Variables.Plain (vs : Variables) : Prop := ∀ v ∈ vs.values, v.Plain

theorem Variables.Plain.readBack {vs : Variables} (h : vs.Plain) {room : Nat}
    (hroom : room ≤ Decoder.textRoom) (hdepth : ∀ v ∈ vs.values, v.document.depth < room) :
    vs.ReadBack := by
  intro v hv
  apply (h v hv).readsBack
  exact Nat.lt_of_lt_of_le (hdepth v hv) hroom

/-- Keys of 64 bits, and variables without doubles. -/
structure StartedInstance.Plain (s : StartedInstance) : Prop where
  instanceKey : Key.Fits s.instanceKey
  definitionKey : Key.Fits s.definitionKey
  elementKey : ∀ key ∈ s.startElementInstanceKey, Key.Fits key
  jobs : ∀ j ∈ s.jobs, Key.Fits j.key
  vars : Variables.Plain s.vars

/-- Keys of 64 bits, and variables without doubles. -/
structure ModifiedInstance.Plain (m : ModifiedInstance) : Prop where
  instanceKey : Key.Fits m.instanceKey
  terminatedKey : Key.Fits m.terminatedKey
  activations : ∀ a ∈ m.activations, Variables.Plain a.vars

namespace JournalEntry

variable {e : JournalEntry} {es : List JournalEntry}

/-- Keys of 64 bits, and variables without doubles. -/
def Plain : JournalEntry → Prop
  | .create s => s.Plain
  | .modify m => m.Plain

/-- The depth that the reader admits for the whole entry is enough for every variable in it. -/
theorem Plain.regular (h : e.Plain) (hfits : e.Fits) : e.Regular := by
  cases e with
  | create s =>
    have hs : s.Plain := h
    have hvars : Variables.ReadBack s.vars :=
      hs.vars.readBack (Nat.sub_le _ _) (fits_create_iff.1 hfits)
    exact ⟨hs.instanceKey, hs.definitionKey, hs.elementKey, hs.jobs, hvars⟩
  | modify m =>
    have hm : m.Plain := h
    have hactivations : ∀ a ∈ m.activations, Variables.ReadBack a.vars := by
      intro a ha
      exact (hm.activations a ha).readBack (Nat.sub_le _ _) (fits_modify_iff.1 hfits a ha)
    exact ⟨hm.instanceKey, hm.terminatedKey, hactivations⟩

theorem Plain.read?_line (h : e.Plain) (hfits : e.Fits) : read? e.line = some e := by
  rw [JournalEntry.read?_line (h.regular hfits), if_pos hfits]

end JournalEntry

/-! ## Journals of such entries -/

/-- Appends the lines of entries, one after the other. -/
def JournalFile.appendAll (f : JournalFile) (es : List JournalEntry) : Except FileError JournalFile :=
  es.foldlM (fun f e => f.append e.line) f

/-- A journal takes the lines of all entries, and holds these entries then. -/
theorem JournalFile.appendAll_holds {f : JournalFile} {held : List JournalEntry}
    (h : Holds held f) (es : List JournalEntry) :
    ∃ f', f.appendAll es = .ok f' ∧ Holds (held ++ es) f' := by
  induction es generalizing f held with
  | nil =>
    refine ⟨f, rfl, ?_⟩
    rw [List.append_nil]
    exact h
  | cons e es ih =>
    rcases h.append e with ⟨f', happend, hholds⟩
    rcases ih hholds with ⟨f'', hall, hholds'⟩
    rw [List.append_assoc] at hholds'
    refine ⟨f'', ?_, hholds'⟩
    unfold appendAll at hall ⊢
    rw [List.foldlM_cons, happend]
    exact hall

namespace JournalEntry

open TargetEngine (entries? isBlankLine replay)

variable {es : List JournalEntry}

/-- What is said of the line of an entry. -/
structure IsCoded (e : JournalEntry) : Prop where
  /-- A journal that takes the line has it behind its text, ended by a line feed. -/
  appended : ∀ f f', JournalFile.append e.line f = .ok f' →
    ∃ before, f.content = .ok before ∧ f'.content = .ok (before ++ e.line ++ "\n")
  /-- Before that there is no line break, nor any other control character. -/
  oneLine : ∀ c ∈ e.line.toList, Json.Printable c
  notBlank : isBlankLine e.line = false
  decoded : read? e.line = some e

theorem append_line (e : JournalEntry) {f f' : JournalFile}
    (h : JournalFile.append e.line f = .ok f') :
    ∃ before, f.content = .ok before ∧ f'.content = .ok (before ++ e.line ++ "\n") := by
  cases f with
  | absent =>
    cases h
    refine ⟨"", rfl, ?_⟩
    rw [String.empty_append]
    rfl
  | text content =>
    cases h
    exact ⟨content, rfl, rfl⟩
  | unwritable cause tried => cases h
  | broken cause => cases h

theorem Plain.isCoded {e : JournalEntry} (h : e.Plain) (hfits : e.Fits) : e.IsCoded where
  appended _ _ := e.append_line
  oneLine _ hc := printable_line hc
  notBlank := e.line_not_blank
  decoded := h.read?_line hfits

/-- The lines of entries that are read back hold exactly these entries. -/
theorem entries?_journal {content : String} (hcontent : content.toList = journalChars es)
    (hread : ∀ e ∈ es, read? e.line = some e) :
    Text.lines content = es.map line ∧ entries? (Text.lines content) = some es := by
  have hholds : JournalFile.Holds es (.text content) := .inr ⟨content, rfl, hcontent⟩
  rcases hholds.lines with ⟨content', htext, hlines⟩
  cases htext
  constructor
  · exact hlines
  · rw [hlines]
    exact TargetEngine.entries?_lines_iff.2 hread

/-- A journal is a code for its entries. Where they have no doubles and are nested no deeper than the
reader goes, every entry has a line of its own that is read as the entry; a journal takes one line
after the other; and a journal of such lines is read as exactly these entries, in their order, so
that opening it adds them to the state one after the other. -/
theorem journal_is_a_code (hplain : ∀ e ∈ es, e.Plain) (hfits : ∀ e ∈ es, e.Fits) :
    (∀ e ∈ es, e.IsCoded) ∧
      (∃ f content, JournalFile.appendAll .absent es = .ok f ∧ f.content = .ok content ∧
        content.toList = journalChars es) ∧
      ∀ content, content.toList = journalChars es →
        Text.lines content = es.map line ∧ entries? (Text.lines content) = some es ∧
          ∀ path s s', replay path s 1 (Text.lines content) = .ok s' ↔
            es.foldlM TargetState.apply s = .ok s' := by
  have hcoded : ∀ e ∈ es, e.IsCoded := fun e he => (hplain e he).isCoded (hfits e he)
  constructor
  · exact hcoded
  constructor
  · -- no entries leave the journal absent, which reads as an empty text
    rcases JournalFile.appendAll_holds (f := .absent) (.inl ⟨rfl, rfl⟩) es with ⟨f, hf, hholds⟩
    rw [List.nil_append] at hholds
    rcases hholds with ⟨rfl, rfl⟩ | ⟨content, rfl, hcontent⟩
    · exact ⟨.absent, "", hf, rfl, rfl⟩
    · exact ⟨.text content, content, hf, rfl, hcontent⟩
  · intro content hcontent
    rcases entries?_journal hcontent fun e he => (hcoded e he).decoded with ⟨hlines, hentries⟩
    refine ⟨hlines, hentries, ?_⟩
    intro path s s'
    -- to replay a text is to apply the entries that it decodes to
    rw [TargetEngine.replay_eq_ok_iff]
    constructor
    · rintro ⟨es', hes', hfold⟩
      rw [hentries] at hes'
      cases hes'
      exact hfold
    · intro hfold
      exact ⟨es, hentries, hfold⟩

/-- A started instance with a text of marks, breaks and a character beyond the first plane, and with
the least and the greatest whole number. -/
def notedEntry : JournalEntry :=
  .create ⟨1, -1, "a \"b\" \\", some "north\nsouth", none, none, [],
    SortedMap.empty.insert "note"
      (.array [.string "\r\n\t😀", .int (-2 ^ 63), .int (2 ^ 64 - 1),
        .object [("", .null), ("x", .bool true)]])⟩

/-- Two entries, read back from the journal that they were written to. -/
theorem noted_journal_is_a_code :
    let es := [notedEntry, .modify ⟨1, 2, []⟩]
    ((∀ e ∈ es, e.Plain) ∧ ∀ e ∈ es, e.Fits) ∧ (∀ e ∈ es, e.IsCoded) ∧
      ∃ content, JournalFile.appendAll .absent es = .ok (.text content) ∧
        entries? (Text.lines content) = some es := by
  intro es
  have hsmall : Key.Fits 1 ∧ Key.Fits 2 ∧ Key.Fits (-1) := by
    unfold Key.Fits
    decide
  have hnote : Variables.Plain (SortedMap.empty.insert "note"
      (.array [.string "\r\n\t😀", .int (-2 ^ 63), .int (2 ^ 64 - 1),
        .object [("", .null), ("x", .bool true)]])) := by
    intro v hv
    rw [List.mem_singleton.1 hv]
    apply Json.Plain.array
    simp only [List.forall_mem_cons]
    refine ⟨.string _, .int (by decide) (by decide), .int (by decide) (by decide), ?_, by simp⟩
    apply Json.Plain.object
    · decide
    · simp only [List.forall_mem_cons]
      exact ⟨.null, .bool true, by simp⟩
  have hplain : ∀ e ∈ es, e.Plain := by
    simp only [es, List.forall_mem_cons]
    refine ⟨⟨hsmall.1, hsmall.2.2, ?_, ?_, hnote⟩, ⟨hsmall.1, hsmall.2.1, ?_⟩, by simp⟩
    · intro key hkey
      cases hkey
    · intro j hj
      cases hj
    · intro a ha
      cases ha
  have hfits : ∀ e ∈ es, e.Fits := by decide
  rcases journal_is_a_code hplain hfits with ⟨hcoded, ⟨f, content, hf, hcontent, hchars⟩, hread⟩
  refine ⟨⟨hplain, hfits⟩, hcoded, content, ?_, (hread content hchars).2.1⟩
  cases f with
  | text text =>
    cases hcontent
    exact hf
  | absent => cases hf
  | unwritable cause tried => cases hf
  | broken cause => cases hf

end JournalEntry
end ProcessMigration
