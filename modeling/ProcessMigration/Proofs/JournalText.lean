import ProcessMigration.Proofs.JsonText
import ProcessMigration.Target.Engine

/-!
# What is read from a written journal

A journal is read entry by entry as it was written, but for the doubles among the variables. What the
state of the target engine is made of does not depend on these: an entry is **bare** when of its
variables only the id of the source instance is left.

* `JournalEntry.bare_of_read?`: an entry that is read from a written line is, made bare, the written
  one;
* `JournalFile.Holds`: the journal holds these entries, each on a line of its own;
* `JournalFile.Holds.lines`: the lines of such a journal are those of the entries;
* `JournalFile.Holds.append`: an accepted entry stands behind the others.
-/

namespace ProcessMigration

open Document (Says SaysMember)

theorem Option.forall₂_of_mapM {α β : Type} {f : α → Option β} {xs : List α} {ys : List β}
    (h : xs.mapM f = some ys) : List.Forall₂ (fun x y => f x = some y) xs ys := by
  induction xs generalizing ys with
  | nil =>
    cases h
    exact .nil
  | cons x xs ih =>
    rw [List.mapM_cons] at h
    obtain ⟨y, hy, h⟩ := Option.bind_eq_some_iff.1 h
    obtain ⟨ys', hys, h⟩ := Option.bind_eq_some_iff.1 h
    cases h
    exact .cons hy (ih hys)

/-! ## Decoding what is said -/

namespace Document.Says

variable {α β : Type} {d : Document} {room : Nat}

theorem text {s t : String} (h : Says d (.string s)) (hd : Decoder.text room d = some t) :
    t = s := by
  cases h
  exact (Option.some.inj hd).symm

theorem int {low high n k : Int} (h : Says d (.int n)) (hd : Decoder.int low high room d = some k) :
    k = n := by
  cases h with
  | number h =>
    unfold Decoder.int at hd
    split at hd
    · next m heq =>
      cases heq
      split at hd
      · cases hd
        exact h n _ rfl rfl
      · cases hd
    · cases hd

theorem nullable {dec : Decoder α} {o : Option α} {j : Json} (h : Says d j) (hj : j ≠ .null)
    (hd : dec.nullable room d = some o) : ∃ a, o = some a ∧ dec room d = some a := by
  unfold Decoder.nullable at hd
  split at hd
  · cases h
    exact absurd rfl hj
  · obtain ⟨a, ha, rfl⟩ := Option.map_eq_some_iff.1 hd
    exact ⟨a, rfl, ha⟩

theorem nullable_null {dec : Decoder α} {o : Option α} (h : Says d .null)
    (hd : dec.nullable room d = some o) : o = none := by
  cases h
  exact (Option.some.inj hd).symm

theorem textOrNull {o o' : Option String} (h : Says d (.ofText? o))
    (hd : Decoder.text.nullable room d = some o') : o' = o := by
  cases o with
  | none => exact nullable_null h hd
  | some s =>
    obtain ⟨t, rfl, ht⟩ := nullable h (by rintro ⟨⟩) hd
    rw [h.text ht]

theorem int64OrNull {o o' : Option Int} (h : Says d (.ofInt? o))
    (hd : Decoder.int64.nullable room d = some o') : o' = o := by
  cases o with
  | none => exact nullable_null h hd
  | some n =>
    obtain ⟨k, rfl, hk⟩ := nullable h (by rintro ⟨⟩) hd
    rw [h.int hk]

/-- The items of a list are read one by one. -/
theorem list {γ : Type} {dec : Decoder α} {encode : β → Json} {f : α → γ} {g : β → γ} {xs : List β}
    {ys : List α}
    (hitem : ∀ x d room y, Says d (encode x) → dec room d = some y → f y = g x)
    (h : Says d (.array (xs.map encode))) (hd : Decoder.list dec room d = some ys) :
    ys.map f = xs.map g := by
  cases h with
  | array h =>
    obtain ⟨room', _, hitems⟩ := Option.bind_eq_some_iff.1 hd
    have hread := Option.forall₂_of_mapM hitems
    have hsays := List.forall₂_map_right_iff.1 h
    clear h hd hitems
    induction hsays generalizing ys with
    | nil =>
      cases hread
      rfl
    | cons hx _ ih =>
      cases hread with
      | cons hy hrest =>
        rw [List.map_cons, List.map_cons, hitem _ _ _ _ hx hy, ih hrest]

/-- A value that is read is a text only if the written one is, and then the same. -/
theorem text?_of_value? {j v : Json} (h : Says d j) (hv : d.value? = some v) :
    v.text? = j.text? := by
  unfold Document.value? at hv
  cases h with
  | null => cases hv; rfl
  | bool b => cases hv; rfl
  | number h =>
    obtain ⟨n, _, rfl⟩ := Option.map_eq_some_iff.1 hv
    rfl
  | string s => cases hv; rfl
  | array h =>
    obtain ⟨n, _, rfl⟩ := Option.map_eq_some_iff.1 hv
    rfl
  | object h =>
    obtain ⟨n, _, rfl⟩ := Option.map_eq_some_iff.1 hv
    rfl

end Document.Says

/-! ## Records -/

/-- What the fields of a record say, as far as these names go. -/
def Record.Says (r : Record) (names : List String) (es : List (String × Json)) : Prop :=
  ∀ name ∈ names, Option.Rel Document.Says (r.fields.lookup name) (es.lookup name)

namespace Record.Says

variable {α : Type} {r : Record} {names : List String} {es : List (String × Json)} {name : String}
  {j : Json}

theorem of_known? {closed : Bool} {ms : List (Option String × Document)}
    {fields : List (String × Document)} (h : List.Forall₂ SaysMember ms es)
    (hfields : Record.known? names closed ms = some fields) :
    ∀ name ∈ names, Option.Rel Document.Says (fields.lookup name) (es.lookup name) := by
  induction h generalizing fields with
  | nil =>
    cases hfields
    intro _ _
    exact .none
  | cons hm _ ih =>
    obtain ⟨key, hvalue⟩ := hm
    intro name hname
    unfold Record.known? at hfields
    obtain ⟨key', hkey, hfields⟩ := Option.bind_eq_some_iff.1 hfields
    cases hkey
    obtain ⟨others, hothers, hfields⟩ := Option.bind_eq_some_iff.1 hfields
    rw [List.lookup_cons]
    by_cases hknown : names.contains key
    · rw [if_pos hknown] at hfields
      -- a key that is repeated is not read
      split at hfields
      · cases hfields
      · cases hfields
        rw [List.lookup_cons]
        split
        · exact .some hvalue
        · exact ih hothers name hname
    · -- a key that is not asked for is passed over
      have hne : (name == key) = false := by
        apply beq_eq_false_iff_ne.2
        intro heq
        subst heq
        exact hknown (by simpa using hname)
      rw [if_neg hknown] at hfields
      split at hfields
      · cases hfields
      · cases hfields
        rw [hne]
        exact ih hothers name hname

theorem of_document? {closed : Bool} {room : Nat} {d : Document}
    (h : Document.Says d (.object es))
    (hr : Record.ofDocument? names closed room d = some r) : Record.Says r names es := by
  cases h with
  | object h =>
    obtain ⟨room', _, hr⟩ := Option.bind_eq_some_iff.1 hr
    obtain ⟨fields, hfields, hr⟩ := Option.bind_eq_some_iff.1 hr
    cases hr
    exact of_known? h hfields

/-- A field that was written is there and says what was written. -/
theorem field (h : Record.Says r names es) (hname : name ∈ names) (hj : es.lookup name = some j) :
    ∃ d, r.fields.lookup name = some d ∧ Document.Says d j := by
  have hrel := h name hname
  rw [hj] at hrel
  cases hfield : r.fields.lookup name with
  | none =>
    rw [hfield] at hrel
    cases hrel
  | some d =>
    rw [hfield] at hrel
    cases hrel with
    | some hd => exact ⟨d, rfl, hd⟩

theorem required {dec : Decoder α} {a : α} (h : Record.Says r names es) (hname : name ∈ names)
    (hj : es.lookup name = some j) (ha : r.required name dec = some a) :
    ∃ d, Document.Says d j ∧ dec r.room d = some a := by
  obtain ⟨d, hfield, hd⟩ := h.field hname hj
  unfold Record.required at ha
  rw [hfield] at ha
  exact ⟨d, hd, ha⟩

theorem withDefault {dec : Decoder α} {a default : α} (h : Record.Says r names es)
    (hname : name ∈ names) (hj : es.lookup name = some j)
    (ha : r.withDefault name dec default = some a) :
    ∃ d, Document.Says d j ∧ dec r.room d = some a := by
  obtain ⟨d, hfield, hd⟩ := h.field hname hj
  unfold Record.withDefault at ha
  rw [hfield] at ha
  exact ⟨d, hd, ha⟩

theorem orNull {dec : Decoder α} {a : Option α} (h : Record.Says r names es)
    (hname : name ∈ names) (hj : es.lookup name = some j) (ha : r.orNull name dec = some a) :
    ∃ d, Document.Says d j ∧ dec.nullable r.room d = some a := by
  obtain ⟨d, hfield, hd⟩ := h.field hname hj
  unfold Record.orNull at ha
  rw [hfield] at ha
  exact ⟨d, hd, ha⟩

end Record.Says

/-! ## Variables -/

/-- The id of the source instance that variables carry. -/
def legacyIdOf (vs : Variables) : Option String := (vs.get? legacyIdVariable).bind Json.text?

/-- Of the variables only the id of the source instance. -/
def bareVariables (vs : Variables) : Variables :=
  match legacyIdOf vs with
  | some id => SortedMap.empty.insert legacyIdVariable (.string id)
  | none => .empty

theorem legacyIdOf_bareVariables (vs : Variables) :
    legacyIdOf (bareVariables vs) = legacyIdOf vs := by
  unfold bareVariables
  split
  · next id h =>
    unfold legacyIdOf
    rw [SortedMap.get?_insert, if_pos rfl]
    exact h.symm
  · next h => exact h.symm

theorem bareVariables_eq_iff {vs vs' : Variables} :
    bareVariables vs = bareVariables vs' ↔ legacyIdOf vs = legacyIdOf vs' := by
  constructor
  · intro h
    rw [← legacyIdOf_bareVariables vs, h, legacyIdOf_bareVariables]
  · intro h
    unfold bareVariables
    rw [h]

/-- Members that are read have the keys that were written, and a text is read as it was. -/
theorem lookup_of_members {room : Nat} {ms : List (Option String × Document)}
    {es pairs : List (String × Json)} (h : List.Forall₂ SaysMember ms es)
    (hread : List.Forall₂ (fun (m : Option String × Document) p => (do
      let key ← m.1
      let v ← Decoder.json room m.2
      return (key, v)) = some p) ms pairs) :
    pairs.map (·.1) = es.map (·.1) ∧
      ∀ key, (pairs.lookup key).bind Json.text? = (es.lookup key).bind Json.text? := by
  induction h generalizing pairs with
  | nil =>
    cases hread
    exact ⟨rfl, fun _ => rfl⟩
  | cons hm _ ih =>
    obtain ⟨key, hvalue⟩ := hm
    cases hread with
    | cons hp hrest =>
      obtain ⟨hkeys, hlookup⟩ := ih hrest
      obtain ⟨key', hkey, hp⟩ := Option.bind_eq_some_iff.1 hp
      cases hkey
      obtain ⟨v, hv, hp⟩ := Option.bind_eq_some_iff.1 hp
      cases hp
      unfold Decoder.json at hv
      split at hv
      · refine ⟨by simp [hkeys], ?_⟩
        intro key'
        rw [List.lookup_cons, List.lookup_cons]
        split
        · exact hvalue.text?_of_value? hv
        · exact hlookup key'
      · cases hv

theorem Document.Says.variableMap {d : Document} {room : Nat} {vs vs' : Variables}
    (h : Says d (.ofMap vs)) (hd : Decoder.variableMap room d = some vs') :
    bareVariables vs' = bareVariables vs := by
  cases h with
  | object h =>
    obtain ⟨room', _, hd⟩ := Option.bind_eq_some_iff.1 hd
    obtain ⟨pairs, hpairs, hd⟩ := Option.bind_eq_some_iff.1 hd
    cases hd
    obtain ⟨hkeys, hlookup⟩ := lookup_of_members h (Option.forall₂_of_mapM hpairs)
    have hnodup : (pairs.map (·.1)).Nodup := by
      rw [hkeys]
      exact (List.pairwise_map.2 vs.sorted).imp String.ne_of_lt
    rw [bareVariables_eq_iff]
    unfold legacyIdOf
    rw [SortedMap.get?_ofList hnodup]
    exact hlookup legacyIdVariable

/-! ## Entries -/

/-- An activation without its variables. -/
def Activation.bare (a : Activation) : Activation := ⟨a.elementId, .empty⟩

/-- An entry that has of its variables only the id of the source instance. -/
def JournalEntry.bare : JournalEntry → JournalEntry
  | .create s => .create { s with vars := bareVariables s.vars }
  | .modify m => .modify { m with activations := m.activations.map Activation.bare }

namespace JournalEntry

theorem job_of_said {j j' : JournalJob} {d : Document} {room : Nat} (h : Says d j.encode)
    (hj : JournalJob.decode room d = some j') : j' = j := by
  obtain ⟨r, hr, hj⟩ := Option.bind_eq_some_iff.1 hj
  have hsays := Record.Says.of_document? h hr
  obtain ⟨key, hkey, hj⟩ := Option.bind_eq_some_iff.1 hj
  obtain ⟨jobType, hjobType, hj⟩ := Option.bind_eq_some_iff.1 hj
  cases hj
  obtain ⟨d₁, hd₁, hkey⟩ := hsays.required (by decide) rfl hkey
  obtain ⟨d₂, hd₂, hjobType⟩ := hsays.required (by decide) rfl hjobType
  show JournalJob.mk key jobType = j
  rw [hd₁.int hkey, hd₂.text hjobType]

theorem activation_of_said {a a' : Activation} {d : Document} {room : Nat} (h : Says d a.encode)
    (ha : Activation.decode room d = some a') : a'.bare = a.bare := by
  obtain ⟨r, hr, ha⟩ := Option.bind_eq_some_iff.1 ha
  have hsays := Record.Says.of_document? h hr
  obtain ⟨elementId, helement, ha⟩ := Option.bind_eq_some_iff.1 ha
  obtain ⟨vars, _, ha⟩ := Option.bind_eq_some_iff.1 ha
  cases ha
  obtain ⟨d₁, hd₁, helement⟩ := hsays.required (by decide) rfl helement
  show Activation.mk elementId .empty = ⟨a.elementId, .empty⟩
  rw [hd₁.text helement]

theorem started_of_said {s s' : StartedInstance} {r : Record}
    (h : Record.Says r createFields [("command", .string createCommand),
      ("instanceKey", .int s.instanceKey), ("definitionKey", .int s.definitionKey),
      ("businessId", .string s.businessId), ("tenantId", .ofText? s.tenant),
      ("startElementId", .ofText? s.startElementId),
      ("startElementInstanceKey", .ofInt? s.startElementInstanceKey),
      ("jobs", .array (s.jobs.map JournalJob.encode)), ("variables", .ofMap s.vars)])
    (hs : startedOf? r = some s') : (JournalEntry.create s').bare = (JournalEntry.create s).bare := by
  unfold startedOf? at hs
  obtain ⟨instanceKey, h₁, hs⟩ := Option.bind_eq_some_iff.1 hs
  obtain ⟨definitionKey, h₂, hs⟩ := Option.bind_eq_some_iff.1 hs
  obtain ⟨businessId, h₃, hs⟩ := Option.bind_eq_some_iff.1 hs
  obtain ⟨tenant, h₄, hs⟩ := Option.bind_eq_some_iff.1 hs
  obtain ⟨startElementId, h₅, hs⟩ := Option.bind_eq_some_iff.1 hs
  obtain ⟨startElementInstanceKey, h₆, hs⟩ := Option.bind_eq_some_iff.1 hs
  obtain ⟨jobs, h₇, hs⟩ := Option.bind_eq_some_iff.1 hs
  obtain ⟨vars, h₈, hs⟩ := Option.bind_eq_some_iff.1 hs
  cases hs
  obtain ⟨d₁, hd₁, h₁⟩ := h.required (by decide) rfl h₁
  obtain ⟨d₂, hd₂, h₂⟩ := h.required (by decide) rfl h₂
  obtain ⟨d₃, hd₃, h₃⟩ := h.required (by decide) rfl h₃
  obtain ⟨d₄, hd₄, h₄⟩ := h.withDefault (by decide) rfl h₄
  obtain ⟨d₅, hd₅, h₅⟩ := h.orNull (by decide) rfl h₅
  obtain ⟨d₆, hd₆, h₆⟩ := h.orNull (by decide) rfl h₆
  obtain ⟨d₇, hd₇, h₇⟩ := h.withDefault (by decide) rfl h₇
  obtain ⟨d₈, hd₈, h₈⟩ := h.withDefault (by decide) rfl h₈
  have hjobs : jobs = s.jobs := by
    have hmap := hd₇.list (f := id) (g := id) (fun _ _ _ _ => job_of_said) h₇
    simpa using hmap
  show JournalEntry.create ⟨instanceKey, definitionKey, businessId, tenant, startElementId,
    startElementInstanceKey, jobs, bareVariables vars⟩ = _
  rw [hd₁.int h₁, hd₂.int h₂, hd₃.text h₃, hd₄.textOrNull h₄, hd₅.textOrNull h₅,
    hd₆.int64OrNull h₆, hjobs, hd₈.variableMap h₈]
  rfl

theorem modified_of_said {m m' : ModifiedInstance} {r : Record}
    (h : Record.Says r modifyFields [("command", .string modifyCommand),
      ("instanceKey", .int m.instanceKey), ("terminatedElementInstanceKey", .int m.terminatedKey),
      ("activations", .array (m.activations.map Activation.encode))])
    (hm : modifiedOf? r = some m') :
    (JournalEntry.modify m').bare = (JournalEntry.modify m).bare := by
  unfold modifiedOf? at hm
  obtain ⟨instanceKey, h₁, hm⟩ := Option.bind_eq_some_iff.1 hm
  obtain ⟨terminatedKey, h₂, hm⟩ := Option.bind_eq_some_iff.1 hm
  obtain ⟨activations, h₃, hm⟩ := Option.bind_eq_some_iff.1 hm
  cases hm
  obtain ⟨d₁, hd₁, h₁⟩ := h.required (by decide) rfl h₁
  obtain ⟨d₂, hd₂, h₂⟩ := h.required (by decide) rfl h₂
  obtain ⟨d₃, hd₃, h₃⟩ := h.required (by decide) rfl h₃
  have hactivations : activations.map Activation.bare = m.activations.map Activation.bare :=
    hd₃.list (fun _ _ _ _ => activation_of_said) h₃
  show JournalEntry.modify ⟨instanceKey, terminatedKey, activations.map Activation.bare⟩ = _
  rw [hd₁.int h₁, hd₂.int h₂, hactivations]
  rfl

/-- A document that says the members of an entry is decoded by its command. -/
theorem decode_of_said {members : List (String × Json)} {command : String} {room : Nat}
    {d : Document} {e : JournalEntry} (h : Says d (.object members))
    (hcommand : members.lookup "command" = some (.string command)) (hd : decode room d = some e) :
    ofCommand? command (fun names => Record.ofObject? names room d) = some e := by
  unfold decode at hd
  obtain ⟨_, _, hd⟩ := Option.bind_eq_some_iff.1 hd
  have htag : ∀ tag, Record.ofObject? ["command"] room d = some tag →
      ∀ c, tag.required "command" .text = some c → c = command := by
    intro tag hrecord c hc
    have hrecord' : Record.ofDocument? ["command"] false room d = some tag := by
      unfold Record.ofObject? at hrecord
      split at hrecord
      · exact hrecord
      · cases hrecord
    obtain ⟨d', hd', hc⟩ := (Record.Says.of_document? h hrecord').required (by decide) hcommand hc
    exact hd'.text hc
  cases h with
  | object h =>
    obtain ⟨tag, hrecord, hd⟩ := Option.bind_eq_some_iff.1 hd
    obtain ⟨c, hc, hd⟩ := Option.bind_eq_some_iff.1 hd
    rw [htag tag hrecord c hc] at hd
    exact hd

theorem record_of_said {members : List (String × Json)} {names : List String} {room : Nat}
    {d : Document} {r : Record} (h : Says d (.object members))
    (hr : Record.ofObject? names room d = some r) : Record.Says r names members := by
  unfold Record.ofObject? at hr
  split at hr
  · exact Record.Says.of_document? h hr
  · cases hr

/-- An entry that is read from a written line is, made bare, the written one. -/
theorem bare_of_read? {e e' : JournalEntry} (h : read? e.line = some e') : e'.bare = e.bare := by
  obtain ⟨d, hread, hd⟩ := Option.bind_eq_some_iff.1 h
  have hchars : Document.ofChars? e.encode.chars = some d := by
    have htext : e.line.toList = e.encode.chars := String.toList_ofList
    unfold Document.read? at hread
    rw [htext] at hread
    exact hread
  have hsays := Json.ofChars?_chars hchars
  cases e with
  | create s =>
    have hcommand := decode_of_said hsays rfl hd
    unfold ofCommand? at hcommand
    rw [if_pos rfl] at hcommand
    obtain ⟨r, hr, hs⟩ := Option.bind_eq_some_iff.1 hcommand
    obtain ⟨s', hs', rfl⟩ := Option.map_eq_some_iff.1 hs
    exact started_of_said (record_of_said hsays hr) hs'
  | modify m =>
    have hcommand := decode_of_said hsays rfl hd
    unfold ofCommand? at hcommand
    rw [if_neg (by decide), if_pos rfl] at hcommand
    obtain ⟨r, hr, hm⟩ := Option.bind_eq_some_iff.1 hcommand
    obtain ⟨m', hm', rfl⟩ := Option.map_eq_some_iff.1 hm
    exact modified_of_said (record_of_said hsays hr) hm'

/-! ## Lines -/

theorem printable_line {e : JournalEntry} {c : Char} (h : c ∈ e.line.toList) : Json.Printable c := by
  have htext : e.line.toList = e.encode.chars := String.toList_ofList
  rw [htext] at h
  exact Json.printable_chars _ h

/-- The line of an entry begins with a brace. -/
theorem line_head (e : JournalEntry) : ∃ more, e.line.toList = '\x7b' :: more := by
  have htext : e.line.toList = e.encode.chars := String.toList_ofList
  rw [htext]
  cases e <;> exact ⟨_, rfl⟩

theorem line_ne_nil (e : JournalEntry) : e.line.toList ≠ [] := by
  obtain ⟨more, hmore⟩ := e.line_head
  rw [hmore]
  exact List.cons_ne_nil _ _

theorem line_not_blank (e : JournalEntry) : TargetEngine.isBlankLine e.line = false := by
  obtain ⟨more, hmore⟩ := e.line_head
  unfold TargetEngine.isBlankLine
  rw [hmore]
  rfl

theorem line_feed_not_mem_line (e : JournalEntry) : '\n' ∉ e.line.toList := by
  intro hmem
  exact absurd (printable_line hmem) (by unfold Json.Printable; decide)

end JournalEntry

namespace Text

theorem linesFrom_cons {c : Char} (hc : c ≠ '\n') (current rest : List Char) :
    linesFrom current (c :: rest) = linesFrom (c :: current) rest := by
  rw [linesFrom.eq_def]
  split
  · next heq => cases heq
  · next heq =>
    cases heq
    exact absurd rfl hc
  · next heq =>
    cases heq
    rfl

/-- A line that is ended. -/
theorem linesFrom_closed {line : List Char} (h : '\n' ∉ line) (current rest : List Char) :
    linesFrom current (line ++ '\n' :: rest) =
      dropReturn (current.reverse ++ line) :: linesFrom [] rest := by
  induction line generalizing current with
  | nil =>
    rw [List.append_nil]
    rfl
  | cons c line ih =>
    have hc : c ≠ '\n' := fun hc => h (hc ▸ List.mem_cons_self)
    rw [List.cons_append, linesFrom_cons hc, ih fun hmem => h (List.mem_cons_of_mem _ hmem)]
    simp

/-- A line with something printable at its end has no carriage return there. -/
theorem dropReturn_append_printable (begun : List Char) {line : List Char} (hne : line ≠ [])
    (h : ∀ c ∈ line, Json.Printable c) : dropReturn (begun ++ line) = begun ++ line := by
  unfold dropReturn
  split
  · next rest heq =>
    have hlast : (begun ++ line).getLast? = some '\r' := by
      rw [List.getLast?_eq_head?_reverse, heq]
      rfl
    rw [List.getLast?_append_of_ne_nil _ hne] at hlast
    exact absurd (h _ (List.mem_of_getLast? hlast)) (by unfold Json.Printable; decide)
  · rfl

end Text

/-! ## Journals -/

/-- The text of a journal. -/
def JournalEntry.journalChars (es : List JournalEntry) : List Char :=
  es.flatMap fun e => e.line.toList ++ ['\n']

theorem JournalEntry.lines_journalChars (es : List JournalEntry) :
    Text.linesFrom [] (journalChars es) = es.map fun e => e.line.toList := by
  induction es with
  | nil => rfl
  | cons e es ih =>
    show Text.linesFrom [] (e.line.toList ++ ['\n'] ++ journalChars es) = _
    rw [List.append_assoc, List.singleton_append, Text.linesFrom_closed e.line_feed_not_mem_line,
      Text.dropReturn_append_printable _ e.line_ne_nil fun _ hc => printable_line hc, ih]
    rfl

namespace JournalFile

variable {es : List JournalEntry} {f f' : JournalFile}

/-- The journal holds these entries. -/
def Holds (es : List JournalEntry) (f : JournalFile) : Prop :=
  (f = .absent ∧ es = []) ∨
    ∃ content, f = .text content ∧ content.toList = JournalEntry.journalChars es

/-- An accepted entry stands behind the others. -/
theorem Holds.append (h : Holds es f) (e : JournalEntry) :
    ∃ f', f.append e.line = .ok f' ∧ Holds (es ++ [e]) f' := by
  rcases h with ⟨rfl, rfl⟩ | ⟨content, rfl, hcontent⟩
  · refine ⟨_, rfl, .inr ⟨_, rfl, ?_⟩⟩
    simp [JournalEntry.journalChars]
  · refine ⟨_, rfl, .inr ⟨_, rfl, ?_⟩⟩
    simp [JournalEntry.journalChars] at hcontent
    simp [JournalEntry.journalChars, hcontent]

/-- The lines of a journal are those of its entries. -/
theorem Holds.lines (h : Holds es f) :
    ∃ content, f.content = .ok content ∧ Text.lines content = es.map JournalEntry.line := by
  rcases h with ⟨rfl, rfl⟩ | ⟨content, rfl, hcontent⟩
  · exact ⟨"", rfl, rfl⟩
  · refine ⟨content, rfl, ?_⟩
    unfold Text.lines
    rw [hcontent, JournalEntry.lines_journalChars, List.map_map]
    exact List.map_congr_left fun e _ => String.ofList_toList

end JournalFile
end ProcessMigration
