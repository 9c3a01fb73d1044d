import ProcessMigration.Proofs.JournalText
import ProcessMigration.Proofs.JsonReading

/-!
# Which journal entries are read back

The values among the variables of an entry may each be read back from their text and the line of the
entry may yet not be: the entry nests them deeper, and a text is read only as deep as there is room.

* `JournalEntry.Regular`: keys of 64 bits, and values that are read back;
* `JournalEntry.read?_line`: the line of a regular entry is read as the entry if there is room for
  its nesting, and otherwise not at all.
-/

namespace ProcessMigration

/-! ## Decoding what was encoded -/

namespace Document

theorem depthOfItems_lt {xs : List Json} {n : Nat} (hn : 0 < n) :
    depthOfItems (Json.documents xs) < n ↔ ∀ x ∈ xs, x.document.depth < n := by
  induction xs with
  | nil => simpa [Json.documents, depthOfItems] using hn
  | cons x xs ih =>
    show max x.document.depth (depthOfItems (Json.documents xs)) < n ↔ _
    rw [Nat.max_lt, ih, List.forall_mem_cons]

theorem depthOfMembers_lt {es : List (String × Json)} {n : Nat} (hn : 0 < n) :
    depthOfMembers (Json.memberDocuments es) < n ↔ ∀ e ∈ es, e.2.document.depth < n := by
  induction es with
  | nil => simpa [Json.memberDocuments, depthOfMembers] using hn
  | cons e es ih =>
    obtain ⟨key, x⟩ := e
    show max x.document.depth (depthOfMembers (Json.memberDocuments es)) < n ↔ _
    rw [Nat.max_lt, ih, List.forall_mem_cons]

theorem depth_array_lt {xs : List Json} {n : Nat} (hn : 0 < n) :
    (Json.array xs).document.depth < n + 1 ↔ ∀ x ∈ xs, x.document.depth < n :=
  Nat.succ_lt_succ_iff.trans (depthOfItems_lt hn)

theorem depth_object_lt (es : List (String × Json)) {n : Nat} (hn : 0 < n) :
    (Json.object es).document.depth < n + 1 ↔ ∀ e ∈ es, e.2.document.depth < n :=
  Nat.succ_lt_succ_iff.trans (depthOfMembers_lt hn)

theorem depth_ofMap_lt {vs : SortedMap Json} {n : Nat} (hn : 0 < n) :
    (Json.ofMap vs).document.depth < n + 1 ↔ ∀ v ∈ vs.values, v.document.depth < n := by
  unfold SortedMap.values
  rw [List.forall_mem_map]
  exact depth_object_lt vs.entries hn

theorem depth_item {x : Json} {xs : List Json} (h : x ∈ xs) :
    x.document.depth < (Json.array xs).document.depth :=
  (depth_array_lt (Nat.succ_pos _)).1 (Nat.lt_succ_self _) x h

theorem depth_member {e : String × Json} {es : List (String × Json)} (h : e ∈ es) :
    e.2.document.depth < (Json.object es).document.depth :=
  (depth_object_lt es (Nat.succ_pos _)).1 (Nat.lt_succ_self _) e h

mutual

/-- The document of a value holds nothing unreadable. -/
theorem exists_value? : ∀ j : Json, ∃ v, j.document.value? = some v
  | .null => ⟨_, rfl⟩
  | .bool _ => ⟨_, rfl⟩
  | .number _ => ⟨_, rfl⟩
  | .string _ => ⟨_, rfl⟩
  | .array xs => by
    obtain ⟨vs, hvs⟩ := exists_itemValues? xs
    exact ⟨.array vs, congrArg (Option.map Json.array) hvs⟩
  | .object es => by
    obtain ⟨vs, hvs⟩ := exists_memberValues? es
    exact ⟨.ofMembers vs, congrArg (Option.map Json.ofMembers) hvs⟩

theorem exists_itemValues? : ∀ xs : List Json, ∃ vs, itemValues? (Json.documents xs) = some vs
  | [] => ⟨_, rfl⟩
  | x :: xs => by
    obtain ⟨v, hv⟩ := exists_value? x
    obtain ⟨vs, hvs⟩ := exists_itemValues? xs
    exact ⟨v :: vs, by simp [Json.documents, itemValues?, hv, hvs]⟩

theorem exists_memberValues? : ∀ es : List (String × Json),
    ∃ vs, memberValues? (Json.memberDocuments es) = some vs
  | [] => ⟨_, rfl⟩
  | (key, x) :: es => by
    obtain ⟨v, hv⟩ := exists_value? x
    obtain ⟨vs, hvs⟩ := exists_memberValues? es
    exact ⟨(key, v) :: vs, by simp [Json.memberDocuments, memberValues?, hv, hvs]⟩

end

end Document

/-- A key of 64 bits. -/
def Key.Fits (key : Int) : Prop := -2 ^ 63 ≤ key ∧ key < 2 ^ 63

/-- Every variable is read back from its text. -/
def Variables.ReadBack (vs : Variables) : Prop := ∀ v ∈ vs.values, v.ReadsBack

namespace Decoder

variable {α : Type} {room : Nat}

theorem int64_document {key : Int} (h : Key.Fits key) :
    Decoder.int64 room (Json.int key).document = some key := by
  unfold Key.Fits at h
  refine if_pos ⟨h.1, ?_⟩
  omega

theorem text_ofText? (o : Option String) :
    Decoder.text.nullable room (Json.ofText? o).document = some o := by
  cases o <;> rfl

theorem int64_ofInt? {o : Option Int} (h : ∀ key ∈ o, Key.Fits key) :
    Decoder.int64.nullable room (Json.ofInt? o).document = some o := by
  cases o with
  | none => rfl
  | some key => exact congrArg (Option.map some) (int64_document (h key rfl))

theorem list_document (d : Decoder α) (encode : α → Json) (xs : List α) (room : Nat)
    (hroom : 2 ≤ room) (h : ∀ x ∈ xs, d (room - 1) (encode x).document = some x) :
    Decoder.list d room (Json.array (xs.map encode)).document = some xs := by
  have hitems : (Json.documents (xs.map encode)).mapM (d (room - 1)) = some xs := by
    clear hroom
    induction xs with
    | nil => rfl
    | cons x xs ih =>
      rw [List.map_cons, Json.documents, List.mapM_cons, h x List.mem_cons_self,
        ih fun y hy => h y (List.mem_cons_of_mem x hy)]
      rfl
  show (Decoder.inner? room).bind _ = _
  rw [Decoder.inner?, if_pos hroom]
  exact hitems

theorem entries_memberDocuments (es : List (String × Json))
    (h : ∀ e ∈ es, e.2.ReadsBack ∧ e.2.document.depth < room) :
    (Json.memberDocuments es).mapM (fun (m : Option String × Document) => do
      let key ← m.1
      let v ← Decoder.json room m.2
      return (key, v)) = some es := by
  induction es with
  | nil => rfl
  | cons e es ih =>
    obtain ⟨hback, hless⟩ := h e List.mem_cons_self
    have hvalue : Decoder.json room e.2.document = some e.2 :=
      (if_pos hless).trans (Json.readsBack_iff.1 hback).2.1
    rw [show Json.memberDocuments (e :: es) =
      (some e.1, e.2.document) :: Json.memberDocuments es from rfl, List.mapM_cons,
      ih fun e' he => h e' (List.mem_cons_of_mem e he)]
    simp [hvalue]

/-- Variables that are read back are decoded where there is room for them. -/
theorem variableMap_document {vs : Variables} (hvs : vs.ReadBack)
    (hdepth : (Json.ofMap vs).document.depth < room) :
    Decoder.variableMap room (Json.ofMap vs).document = some vs := by
  have hroom : 2 ≤ room := by
    have hpos : 0 < (Json.ofMap vs).document.depth := Nat.succ_pos _
    omega
  have hroomLeft : ∀ e ∈ vs.entries, e.2.ReadsBack ∧ e.2.document.depth < room - 1 := by
    intro e he
    have hmember := Document.depth_member he
    have hmap : (Json.object vs.entries).document.depth < room := hdepth
    exact ⟨hvs e.2 (List.mem_map_of_mem he), by omega⟩
  have hall := entries_memberDocuments vs.entries hroomLeft
  show (Decoder.inner? room).bind _ = _
  rw [Decoder.inner?, if_pos hroom, Option.bind_some]
  show Option.bind ((Json.memberDocuments vs.entries).mapM _) _ = _
  rw [hall, Option.bind_some]
  exact congrArg some (SortedMap.ofList_entries vs)

end Decoder

/-! ## Records -/

namespace Record

variable {α : Type} {names : List String} {es : List (String × Json)} {room : Nat}

theorem known?_members (names : List String) (hnodup : (es.map (·.1)).Nodup) :
    ∃ fields, known? names false (Json.memberDocuments es) = some fields ∧
      (∀ name ∈ names, fields.lookup name = (es.lookup name).map Json.document) ∧
      ∀ field ∈ fields, field.1 ∈ es.map (·.1) := by
  induction es with
  | nil => exact ⟨[], rfl, fun _ _ => rfl, fun _ h => by cases h⟩
  | cons e es ih =>
    obtain ⟨key, x⟩ := e
    obtain ⟨hnew, hrest⟩ := List.nodup_cons.1 hnodup
    obtain ⟨others, hothers, hlookup, hkeys⟩ := ih hrest
    have hunfold : known? names false (Json.memberDocuments ((key, x) :: es)) =
        if names.contains key then
          if (others.lookup key).isSome then none else some ((key, x.document) :: others)
        else some others := by
      show known? names false ((some key, x.document) :: Json.memberDocuments es) = _
      simp [known?, hothers]
    -- no key is repeated, so no field is taken twice
    have habsent : others.lookup key = none := by
      rw [List.lookup_eq_none_iff]
      intro field hfield
      exact bne_iff_ne.2 fun heq => hnew (heq ▸ hkeys field hfield)
    rw [hunfold]
    by_cases hknown : names.contains key
    · rw [if_pos hknown, habsent]
      refine ⟨(key, x.document) :: others, rfl, ?_, ?_⟩
      · intro name hname
        rw [List.lookup_cons, List.lookup_cons, hlookup name hname]
        split <;> rfl
      · intro field hfield
        rcases List.mem_cons.1 hfield with rfl | hfield
        · exact List.mem_cons_self
        · exact List.mem_cons_of_mem _ (hkeys field hfield)
    · rw [if_neg hknown]
      refine ⟨others, rfl, ?_, ?_⟩
      · intro name hname
        have hother : (name == key) = false := by
          apply beq_eq_false_iff_ne.2
          intro heq
          subst heq
          exact hknown (by simpa using hname)
        rw [List.lookup_cons, hother]
        exact hlookup name hname
      · intro field hfield
        exact List.mem_cons_of_mem _ (hkeys field hfield)

/-- The record of these members, as far as these names go. -/
structure Holds (names : List String) (es : List (String × Json)) (room : Nat) (r : Record) :
    Prop where
  room : r.room = room
  fields : ∀ name ∈ names, r.fields.lookup name = (es.lookup name).map Json.document

/-- The record of an encoded object has its members. -/
theorem ofDocument?_document (names : List String) (es : List (String × Json)) (room : Nat)
    (hnodup : (es.map (·.1)).Nodup) (hroom : 2 ≤ room) :
    ∃ r, ofDocument? names false room (Json.object es).document = some r ∧
      Holds names es (room - 1) r := by
  obtain ⟨fields, hfields, hlookup, _⟩ := known?_members names hnodup
  refine ⟨⟨fields, false, room - 1⟩, ?_, rfl, hlookup⟩
  show Option.bind (Decoder.inner? room) _ = _
  rw [Decoder.inner?, if_pos hroom, Option.bind_some]
  show Option.bind (known? names false (Json.memberDocuments es)) _ = _
  rw [hfields]
  rfl

namespace Holds

variable {r : Record} {name : String} {j : Json} {d : Decoder α} {a : α}

theorem required (h : Holds names es room r) (hname : name ∈ names) (hj : es.lookup name = some j)
    (hd : d room j.document = some a) : r.required name d = some a := by
  unfold Record.required
  rw [h.fields name hname, hj, h.room]
  exact hd

theorem withDefault (h : Holds names es room r) {default : α} (hname : name ∈ names)
    (hj : es.lookup name = some j) (hd : d room j.document = some a) :
    r.withDefault name d default = some a := by
  unfold Record.withDefault
  rw [h.fields name hname, hj, h.room]
  exact hd

theorem orNull (h : Holds names es room r) {o : Option α} (hname : name ∈ names)
    (hj : es.lookup name = some j) (hd : d.nullable room j.document = some o) :
    r.orNull name d = some o := by
  unfold Record.orNull
  rw [h.fields name hname, hj, h.room]
  exact hd

end Holds
end Record

/-! ## Entries -/

theorem JournalJob.decode_document {j : JournalJob} (h : Key.Fits j.key) {room : Nat}
    (hroom : 2 ≤ room) : JournalJob.decode room j.encode.document = some j := by
  obtain ⟨r, hr, hfields⟩ := Record.ofDocument?_document ["key", "jobType"]
    [("key", .int j.key), ("jobType", .string j.jobType)] room
    (show ["key", "jobType"].Nodup by decide) hroom
  show Option.bind (Record.ofDocument? _ false room _) _ = _
  rw [JournalJob.encode, hr, Option.bind_some,
    hfields.required (by decide) rfl (Decoder.int64_document h),
    hfields.required (a := j.jobType) (by decide) rfl rfl]
  rfl

theorem Activation.decode_document {a : Activation} (h : Variables.ReadBack a.vars) {room : Nat}
    (hdepth : a.encode.document.depth < room) :
    Activation.decode room a.encode.document = some a := by
  have hvars : (Json.ofMap a.vars).document.depth < a.encode.document.depth :=
    Document.depth_member (e := ("variables", .ofMap a.vars))
      (List.mem_cons_of_mem _ List.mem_cons_self)
  obtain ⟨r, hr, hfields⟩ := Record.ofDocument?_document ["elementId", "variables"]
    [("elementId", .string a.elementId), ("variables", .ofMap a.vars)] room
    (show ["elementId", "variables"].Nodup by decide) (by omega)
  show Option.bind (Record.ofDocument? _ false room _) _ = _
  rw [Activation.encode, hr, Option.bind_some,
    hfields.required (a := a.elementId) (by decide) rfl rfl,
    hfields.withDefault (by decide) rfl (Decoder.variableMap_document h (by omega))]
  rfl

/-- Keys of 64 bits, and variables that are read back. -/
structure StartedInstance.Regular (s : StartedInstance) : Prop where
  instanceKey : Key.Fits s.instanceKey
  definitionKey : Key.Fits s.definitionKey
  elementKey : ∀ key ∈ s.startElementInstanceKey, Key.Fits key
  jobs : ∀ j ∈ s.jobs, Key.Fits j.key
  vars : Variables.ReadBack s.vars

/-- Keys of 64 bits, and variables that are read back. -/
structure ModifiedInstance.Regular (m : ModifiedInstance) : Prop where
  instanceKey : Key.Fits m.instanceKey
  terminatedKey : Key.Fits m.terminatedKey
  activations : ∀ a ∈ m.activations, Variables.ReadBack a.vars

namespace JournalEntry

/-- Keys of 64 bits, and variables that are read back. -/
def Regular : JournalEntry → Prop
  | .create s => s.Regular
  | .modify m => m.Regular

/-- There is room for the nesting of the entry where its line is read. -/
def Fits (e : JournalEntry) : Prop := e.encode.document.depth < Decoder.textRoom

instance (e : JournalEntry) : Decidable e.Fits := inferInstanceAs (Decidable (_ < _))

/-- The members of the entry of a started instance. -/
def createMembers (s : StartedInstance) : List (String × Json) :=
  [("command", .string createCommand), ("instanceKey", .int s.instanceKey),
    ("definitionKey", .int s.definitionKey), ("businessId", .string s.businessId),
    ("tenantId", .ofText? s.tenant), ("startElementId", .ofText? s.startElementId),
    ("startElementInstanceKey", .ofInt? s.startElementInstanceKey),
    ("jobs", .array (s.jobs.map JournalJob.encode)), ("variables", .ofMap s.vars)]

/-- The members of the entry of a modified instance. -/
def modifyMembers (m : ModifiedInstance) : List (String × Json) :=
  [("command", .string modifyCommand), ("instanceKey", .int m.instanceKey),
    ("terminatedElementInstanceKey", .int m.terminatedKey),
    ("activations", .array (m.activations.map Activation.encode))]

theorem decode_create {s : StartedInstance} (hs : s.Regular) {room : Nat} (hroom : 4 ≤ room)
    (hdepth : (create s).encode.document.depth < room) :
    (Record.ofObject? createFields room (create s).encode.document).bind startedOf? = some s := by
  obtain ⟨r, hr, hfields⟩ := Record.ofDocument?_document createFields (createMembers s) room
    (show ["command", "instanceKey", "definitionKey", "businessId", "tenantId", "startElementId",
      "startElementInstanceKey", "jobs", "variables"].Nodup by decide) (by omega)
  have hobject : Record.ofObject? createFields room (create s).encode.document = some r := hr
  have hvars : (Json.ofMap s.vars).document.depth < (create s).encode.document.depth :=
    Document.depth_member (show ("variables", Json.ofMap s.vars) ∈ createMembers s by
      simp [createMembers])
  have hjobs := Decoder.list_document JournalJob.decode JournalJob.encode s.jobs (room - 1) (by omega)
    fun j hj => JournalJob.decode_document (hs.jobs j hj) (by omega)
  rw [hobject, Option.bind_some, startedOf?,
    hfields.required (by decide) rfl (Decoder.int64_document hs.instanceKey),
    hfields.required (by decide) rfl (Decoder.int64_document hs.definitionKey),
    hfields.required (a := s.businessId) (by decide) rfl rfl,
    Record.optional, hfields.withDefault (by decide) rfl (Decoder.text_ofText? s.tenant),
    hfields.orNull (by decide) rfl (Decoder.text_ofText? s.startElementId),
    hfields.orNull (by decide) rfl (Decoder.int64_ofInt? hs.elementKey),
    hfields.withDefault (by decide) rfl hjobs,
    hfields.withDefault (by decide) rfl (Decoder.variableMap_document hs.vars (by omega))]
  rfl

theorem decode_modify {m : ModifiedInstance} (hm : m.Regular) {room : Nat} (hroom : 4 ≤ room)
    (hdepth : (modify m).encode.document.depth < room) :
    (Record.ofObject? modifyFields room (modify m).encode.document).bind modifiedOf? = some m := by
  obtain ⟨r, hr, hfields⟩ := Record.ofDocument?_document modifyFields (modifyMembers m) room
    (show ["command", "instanceKey", "terminatedElementInstanceKey", "activations"].Nodup by decide)
    (by omega)
  have hobject : Record.ofObject? modifyFields room (modify m).encode.document = some r := hr
  have hlist : (Json.array (m.activations.map Activation.encode)).document.depth <
      (modify m).encode.document.depth :=
    Document.depth_member (show ("activations", Json.array (m.activations.map Activation.encode)) ∈
      modifyMembers m by simp [modifyMembers])
  have hactivations := Decoder.list_document Activation.decode Activation.encode m.activations
    (room - 1) (by omega) fun a ha => by
      have hitem := Document.depth_item (List.mem_map_of_mem (f := Activation.encode) ha)
      exact Activation.decode_document (hm.activations a ha) (by omega)
  rw [hobject, Option.bind_some, modifiedOf?,
    hfields.required (by decide) rfl (Decoder.int64_document hm.instanceKey),
    hfields.required (by decide) rfl (Decoder.int64_document hm.terminatedKey),
    hfields.required (by decide) rfl hactivations]
  rfl

/-- What is nested too deeply is not decoded. -/
theorem decode_deep {room : Nat} {d : Document} (h : ¬d.depth < room) : decode room d = none := by
  show Option.bind (Decoder.json room d) _ = none
  rw [show Decoder.json room d = none from if_neg h]
  rfl

/-- An object is decoded by its command. -/
theorem decode_object (members : List (String × Json)) {command : String} {room : Nat}
    (hcommand : members.lookup "command" = some (.string command))
    (hnodup : (members.map (·.1)).Nodup) (hroom : 2 ≤ room)
    (hdepth : (Json.object members).document.depth < room) :
    decode room (Json.object members).document =
      ofCommand? command fun names => Record.ofObject? names room (Json.object members).document := by
  obtain ⟨v, hv⟩ := Document.exists_value? (.object members)
  have hjson : Decoder.json room (Json.object members).document = some v :=
    (if_pos hdepth).trans hv
  obtain ⟨tag, htag, hfields⟩ := Record.ofDocument?_document ["command"] members room hnodup hroom
  have hobject : Record.ofObject? ["command"] room (Json.object members).document = some tag := htag
  have hread : tag.required "command" Decoder.text = some command :=
    hfields.required List.mem_cons_self hcommand rfl
  show Option.bind (Decoder.json room _) _ = _
  rw [hjson, Option.bind_some]
  show Option.bind (Record.ofObject? ["command"] room _) _ = _
  rw [hobject, Option.bind_some, hread]
  rfl

/-- The line of a started instance leaves its variables two levels less than there is room for. -/
theorem fits_create_iff {s : StartedInstance} :
    (create s).Fits ↔ ∀ v ∈ s.vars.values, v.document.depth < Decoder.textRoom - 2 := by
  have hint : ∀ n : Int, (Json.int n).document.depth = 0 := fun _ => rfl
  have hstring : ∀ text : String, (Json.string text).document.depth = 0 := fun _ => rfl
  have htext : ∀ o : Option String, (Json.ofText? o).document.depth = 0 := by
    rintro (_ | text) <;> rfl
  have hkey : ∀ o : Option Int, (Json.ofInt? o).document.depth = 0 := by
    rintro (_ | n) <;> rfl
  have hjobs : (Json.array (s.jobs.map JournalJob.encode)).document.depth < 127 := by
    refine (Document.depth_array_lt (n := 126) (by omega)).2 ?_
    intro x hx
    obtain ⟨j, _, rfl⟩ := List.mem_map.1 hx
    show 1 < 126
    omega
  have hentry : (create s).Fits ↔ (Json.ofMap s.vars).document.depth < 127 := by
    refine (Document.depth_object_lt (createMembers s) (n := 127) (by omega)).trans ?_
    simp [createMembers, hint, hstring, htext, hkey, hjobs]
  rw [hentry]
  exact Document.depth_ofMap_lt (n := 126) (by omega)

/-- The line of a modified instance leaves the variables of its activations four levels less. -/
theorem fits_modify_iff {m : ModifiedInstance} :
    (modify m).Fits ↔
      ∀ a ∈ m.activations, ∀ v ∈ a.vars.values, v.document.depth < Decoder.textRoom - 4 := by
  have hint : ∀ n : Int, (Json.int n).document.depth = 0 := fun _ => rfl
  have hstring : ∀ text : String, (Json.string text).document.depth = 0 := fun _ => rfl
  have hentry : (modify m).Fits ↔
      (Json.array (m.activations.map Activation.encode)).document.depth < 127 := by
    refine (Document.depth_object_lt (modifyMembers m) (n := 127) (by omega)).trans ?_
    simp [modifyMembers, hint, hstring]
  have hactivation : ∀ a : Activation, a.encode.document.depth < 126 ↔
      ∀ v ∈ a.vars.values, v.document.depth < 124 := by
    intro a
    rw [← Document.depth_ofMap_lt (by omega)]
    refine (Document.depth_object_lt [("elementId", .string a.elementId),
      ("variables", .ofMap a.vars)] (n := 125) (by omega)).trans ?_
    simp [hstring]
  rw [hentry]
  refine (Document.depth_array_lt (n := 126) (by omega)).trans (List.forall_mem_map.trans ?_)
  exact forall₂_congr fun a _ => hactivation a

/-- A regular entry is decoded where there is room for its nesting, and nowhere else. -/
theorem decode_encode {e : JournalEntry} (he : e.Regular) {room : Nat} (hroom : 4 ≤ room) :
    decode room e.encode.document =
      if e.encode.document.depth < room then some e else none := by
  by_cases hdepth : e.encode.document.depth < room
  · rw [if_pos hdepth]
    cases e with
    | create s =>
      obtain ⟨r, hr, hs⟩ := Option.bind_eq_some_iff.1 (decode_create he hroom hdepth)
      refine (decode_object (createMembers s) rfl
        (show ["command", "instanceKey", "definitionKey", "businessId", "tenantId",
          "startElementId", "startElementInstanceKey", "jobs", "variables"].Nodup by decide)
        (by omega) hdepth).trans ?_
      unfold ofCommand?
      rw [if_pos rfl]
      show Option.bind (Record.ofObject? createFields room (create s).encode.document) _ = _
      rw [hr, Option.bind_some, hs]
      rfl
    | modify m =>
      obtain ⟨r, hr, hm⟩ := Option.bind_eq_some_iff.1 (decode_modify he hroom hdepth)
      refine (decode_object (modifyMembers m) rfl
        (show ["command", "instanceKey", "terminatedElementInstanceKey", "activations"].Nodup by
          decide) (by omega) hdepth).trans ?_
      unfold ofCommand?
      rw [if_neg (by decide), if_pos rfl]
      show Option.bind (Record.ofObject? modifyFields room (modify m).encode.document) _ = _
      rw [hr, Option.bind_some, hm]
      rfl
  · rw [if_neg hdepth, decode_deep hdepth]

/-! ### The text of an entry -/

theorem readable_key {key : Int} (h : Key.Fits key) : (Json.int key).Readable := by
  obtain ⟨hlow, hhigh⟩ := h
  exact Json.readable_int hlow (by omega)

theorem readable_ofText? (o : Option String) : (Json.ofText? o).Readable := by
  cases o with
  | none => exact Json.readable_null
  | some s => exact Json.readable_string s

theorem readable_vars {vs : Variables} (h : Variables.ReadBack vs) : (Json.ofMap vs).Readable :=
  Json.readable_object fun p hp => (Json.readsBack_iff.1 (h p.2 (List.mem_map_of_mem hp))).1

theorem readable_jobs {jobs : List JournalJob} (h : ∀ j ∈ jobs, Key.Fits j.key) :
    (Json.array (jobs.map JournalJob.encode)).Readable := by
  apply Json.readable_array
  intro x hx
  obtain ⟨j, hj, rfl⟩ := List.mem_map.1 hx
  apply Json.readable_object
  intro p hp
  simp only [List.mem_cons, List.not_mem_nil, or_false] at hp
  rcases hp with rfl | rfl
  · exact readable_key (h j hj)
  · exact Json.readable_string _

theorem readable_activations {activations : List Activation}
    (h : ∀ a ∈ activations, Variables.ReadBack a.vars) :
    (Json.array (activations.map Activation.encode)).Readable := by
  apply Json.readable_array
  intro x hx
  obtain ⟨a, ha, rfl⟩ := List.mem_map.1 hx
  apply Json.readable_object
  intro p hp
  simp only [List.mem_cons, List.not_mem_nil, or_false] at hp
  rcases hp with rfl | rfl
  · exact Json.readable_string _
  · exact readable_vars (h a ha)

theorem readable_encode {e : JournalEntry} (he : e.Regular) : e.encode.Readable := by
  cases e with
  | create s =>
    have hs : s.Regular := he
    have helement : (Json.ofInt? s.startElementInstanceKey).Readable := by
      cases hkey : s.startElementInstanceKey with
      | none => exact Json.readable_null
      | some key => exact readable_key (hs.elementKey key hkey)
    apply Json.readable_object
    intro p hp
    simp only [List.mem_cons, List.not_mem_nil, or_false] at hp
    -- one case for each member, in the order in which they are written
    rcases hp with rfl | rfl | rfl | rfl | rfl | rfl | rfl | rfl | rfl
    · exact Json.readable_string _
    · exact readable_key hs.instanceKey
    · exact readable_key hs.definitionKey
    · exact Json.readable_string _
    · exact readable_ofText? _
    · exact readable_ofText? _
    · exact helement
    · exact readable_jobs hs.jobs
    · exact readable_vars hs.vars
  | modify m =>
    have hm : m.Regular := he
    apply Json.readable_object
    intro p hp
    simp only [List.mem_cons, List.not_mem_nil, or_false] at hp
    rcases hp with rfl | rfl | rfl | rfl
    · exact Json.readable_string _
    · exact readable_key hm.instanceKey
    · exact readable_key hm.terminatedKey
    · exact readable_activations hm.activations

/-- The line of a regular entry is read as the entry if there is room for its nesting, and otherwise
not at all. -/
theorem read?_line {e : JournalEntry} (he : e.Regular) :
    read? e.line = if e.Fits then some e else none := by
  have htext : e.line.toList = e.encode.chars := String.toList_ofList
  have hread : Document.read? e.line = some e.encode.document := by
    unfold Document.read?
    rw [htext]
    exact Json.ofChars?_of_readable (readable_encode he)
  unfold read? Decoder.ofText?
  rw [hread, Option.bind_some]
  exact decode_encode he (by decide)

end JournalEntry
end ProcessMigration
