import ProcessMigration.Migration.Session
import ProcessMigration.Program
import ProcessMigration.Proofs.JsonReading
import ProcessMigration.Proofs.SnapshotOrder

/-!
# The same snapshot in another order

With distinct ids a list of instances has one place in the order of a snapshot only. So two
documents that differ in the order of their instances make the same source, and nothing that is
asked of it and no run over it shows which of them was read.

* `Record.known?_single`: a document with an only field holds it wherever it stands;
* `SnapshotSource.Reordered.decodes`: documents that differ in the order of their instances hold the
  same instances, or neither is a snapshot;
* `SnapshotSource.SameAnswers`: what is asked of two sources and what runs over them leave is the
  same;
* `SnapshotSource.honours_cursor_contract`: pages, places and documents together.
-/

namespace ProcessMigration

/-! ## Records of one field -/

/-- The fields that are found in an object have known names. -/
theorem Record.mem_names_of_known? {names : List String} {closed : Bool}
    {ms : List (Option String × Document)} {fields : List (String × Document)}
    (h : known? names closed ms = some fields) : ∀ e ∈ fields, e.1 ∈ names := by
  induction ms generalizing fields with
  | nil =>
    cases h
    exact List.forall_mem_nil _
  | cons m ms ih =>
    unfold known? at h
    obtain ⟨key, -, h⟩ := Option.bind_eq_some_iff.1 h
    obtain ⟨others, hothers, h⟩ := Option.bind_eq_some_iff.1 h
    split at h
    case isTrue hknown =>
      split at h
      case isTrue => cases h
      case isFalse =>
        cases h
        exact List.forall_mem_cons.2 ⟨by simpa using hknown, ih hothers⟩
    case isFalse =>
      split at h
      case isTrue => cases h
      case isFalse =>
        cases h
        exact ih hothers

/-- Whether a record has an only field in one place and nowhere else does not depend on what it
holds. -/
theorem Record.known?_single (name : String) (before after : List (Option String × Document)) :
    (∀ x, known? [name] false (before ++ (some name, x) :: after) = none) ∨
      ∀ x, known? [name] false (before ++ (some name, x) :: after) = some [(name, x)] := by
  induction before with
  | nil =>
    cases hafter : known? [name] false after with
    | none => exact .inl fun x => by simp [known?, hafter]
    | some others =>
      cases others with
      | nil => exact .inr fun x => by simp [known?, hafter]
      | cons e others =>
        have he : e.1 = name := by
          simpa using mem_names_of_known? hafter e List.mem_cons_self
        have hlookup : ((e :: others).lookup name).isSome = true := by simp [he]
        exact .inl fun x => by simp [known?, hafter, hlookup]
  | cons m before ih =>
    obtain ⟨key, d⟩ := m
    cases key with
    | none => exact .inl fun x => by simp [known?]
    | some key =>
      rcases ih with hnone | hsome
      case inl => exact .inl fun x => by simp [known?, hnone]
      case inr =>
        by_cases hkey : key = name
        · exact .inl fun x => by simp [known?, hsome, hkey]
        · exact .inr fun x => by simp [known?, hsome, hkey]

/-! ## Instances in any order -/

/-- Items that are read one by one are read in any order. -/
theorem Option.mapM_perm {α β : Type} {f : α → Option β} {xs ys : List α} (h : xs.Perm ys)
    {as : List β} (has : xs.mapM f = some as) : ∃ bs, ys.mapM f = some bs ∧ as.Perm bs := by
  induction h generalizing as with
  | nil => exact ⟨as, has, .refl _⟩
  | cons x h ih =>
    rw [List.mapM_cons] at has
    obtain ⟨a, ha, has⟩ := Option.bind_eq_some_iff.1 has
    obtain ⟨as, hrest, ⟨⟩⟩ := Option.bind_eq_some_iff.1 has
    obtain ⟨bs, hbs, hperm⟩ := ih hrest
    exact ⟨a :: bs, by simp [List.mapM_cons, ha, hbs], hperm.cons a⟩
  | swap x y l =>
    rw [List.mapM_cons, List.mapM_cons] at has
    obtain ⟨b, hb, has⟩ := Option.bind_eq_some_iff.1 has
    obtain ⟨as, hrest, ⟨⟩⟩ := Option.bind_eq_some_iff.1 has
    obtain ⟨a, ha, hrest⟩ := Option.bind_eq_some_iff.1 hrest
    obtain ⟨as, hl, ⟨⟩⟩ := Option.bind_eq_some_iff.1 hrest
    exact ⟨a :: b :: as, by simp [List.mapM_cons, ha, hb, hl], .swap a b as⟩
  | trans _ _ ih₁ ih₂ =>
    obtain ⟨bs, hbs, hperm⟩ := ih₁ has
    obtain ⟨cs, hcs, hperm'⟩ := ih₂ hbs
    exact ⟨cs, hcs, hperm.trans hperm'⟩

namespace SnapshotSource

/-- With these instances the document is read instance by instance, or whatever the instances are it
is not read. -/
def ReadsEach (room : Nat) (around : List Document → Document) : Prop :=
  (∀ ds, decodeInstances room (around ds) = none) ∨
    ∃ inner, ∀ ds, decodeInstances room (around ds) = ds.mapM (SnapshotInstance.decode inner)

theorem readsEach_object (room : Nat) (before after : List (Option String × Document)) :
    ReadsEach room fun ds => .object (before ++ (some "instances", .array ds) :: after) := by
  unfold ReadsEach decodeInstances Decoder.record
  cases hroom : Decoder.inner? room with
  | none => exact .inl fun ds => by simp [Record.ofDocument?, hroom]
  | some inside =>
    rcases Record.known?_single "instances" before after with hnone | hsome
    · exact .inl fun ds => by simp [Record.ofDocument?, hroom, hnone]
    · cases hinner : Decoder.inner? inside with
      | none =>
        exact .inl fun ds => by
          simp [Record.ofDocument?, hroom, hsome, Record.withDefault, Decoder.list, hinner]
      | some inner =>
        exact .inr ⟨inner, fun ds => by
          simp [Record.ofDocument?, hroom, hsome, Record.withDefault, Decoder.list, hinner]⟩

theorem readsEach_array (room : Nat) (rest : List Document) :
    ReadsEach room fun ds => .array (.array ds :: rest) := by
  unfold ReadsEach decodeInstances Decoder.record
  cases hroom : Decoder.inner? room with
  | none => exact .inl fun ds => by simp [Record.ofDocument?, hroom]
  | some inside =>
    cases rest with
    | cons d rest => exact .inl fun ds => by simp [Record.ofDocument?, hroom]
    | nil =>
      cases hinner : Decoder.inner? inside with
      | none =>
        exact .inl fun ds => by
          simp [Record.ofDocument?, hroom, Record.withDefault, Decoder.list, hinner]
      | some inner =>
        exact .inr ⟨inner, fun ds => by
          simp [Record.ofDocument?, hroom, Record.withDefault, Decoder.list, hinner]⟩

/-- Two documents of snapshots differ in nothing but the order of their instances. -/
inductive Reordered : Document → Document → Prop
  | object {ds es : List Document} (before after : List (Option String × Document))
    (h : ds.Perm es) :
    Reordered (.object (before ++ (some "instances", .array ds) :: after))
      (.object (before ++ (some "instances", .array es) :: after))
  | array {ds es : List Document} (rest : List Document) (h : ds.Perm es) :
    Reordered (.array (.array ds :: rest)) (.array (.array es :: rest))

/-- Such documents hold the same instances, or neither of them is a snapshot. -/
theorem Reordered.decodes {d e : Document} (h : Reordered d e) (room : Nat) :
    (decodeInstances room d = none ∧ decodeInstances room e = none) ∨
      ∃ xs ys, decodeInstances room d = some xs ∧ decodeInstances room e = some ys ∧
        xs.Perm ys := by
  obtain ⟨around, ds, es, hperm, rfl, rfl, haround⟩ : ∃ (around : List Document → Document)
      (ds es : List Document), ds.Perm es ∧ d = around ds ∧ e = around es ∧
        ReadsEach room around := by
    cases h with
    | object before after h => exact ⟨_, _, _, h, rfl, rfl, readsEach_object room before after⟩
    | array rest h => exact ⟨_, _, _, h, rfl, rfl, readsEach_array room rest⟩
  rcases haround with hnone | ⟨inner, heach⟩
  case inl => exact .inl ⟨hnone ds, hnone es⟩
  case inr =>
    rw [heach, heach]
    cases hread : ds.mapM (SnapshotInstance.decode inner) with
    | some xs =>
      obtain ⟨ys, hys, hxs⟩ := Option.mapM_perm hperm hread
      exact .inr ⟨xs, ys, rfl, hys, hxs⟩
    | none =>
      refine .inl ⟨rfl, Option.eq_none_iff_forall_ne_some.2 ?_⟩
      intro ys hys
      obtain ⟨xs, hxs, -⟩ := Option.mapM_perm hperm.symm hys
      rw [hread] at hxs
      cases hxs

/-! ## What a source is asked -/

/-- Every question about these sources has the same answer, and so has every run over them. -/
structure SameAnswers (s t : SnapshotSource) : Prop where
  count : s.count = t.count
  listAfter (after : Option Cursor) (limit : Nat) :
    s.listAfter after limit = t.listAfter after limit
  find? (id : String) : s.find? id = t.find? id
  activityTree (id : String) : s.activityTree id = t.activityTree id
  variablesOf (scopeId : String) : s.variablesOf scopeId = t.variablesOf scopeId
  completedBefore (id gateway : String) :
    s.completedBefore id gateway = t.completedBefore id gateway
  /-- Whatever happens in a session, the rows and the journal come out the same. -/
  sessions (w : Workspace) (events : List Event) :
    ((Session.start { w with source := s }).after events).world.database =
        ((Session.start { w with source := t }).after events).world.database ∧
      ((Session.start { w with source := s }).after events).world.target.journal =
        ((Session.start { w with source := t }).after events).world.target.journal
  /-- The program ends the same, prints the same and leaves the same files. -/
  program (a : Arguments) (c : Config) (pipeline : Pipeline) (files : FileTree) (o : OpenDatabase)
    (w : Workspace) :
    Program.migrate a c pipeline files o { w with source := s } =
      Program.migrate a c pipeline files o { w with source := t }

theorem SameAnswers.refl (s : SnapshotSource) : SameAnswers s s where
  count := rfl
  listAfter _ _ := rfl
  find? _ := rfl
  activityTree _ := rfl
  variablesOf _ := rfl
  completedBefore _ _ := rfl
  sessions _ _ := ⟨rfl, rfl⟩
  program _ _ _ _ _ _ := rfl

/-- **A snapshot honours the cursor contract.** Its pages follow the order of places; and documents
with the same instances in another order, if their ids are distinct, are the same to every question
and to every run. -/
theorem honours_cursor_contract :
    (∀ xs, HonoursCursors xs) ∧
      (∀ xs ys : List SnapshotInstance, xs.Perm ys → (xs.map (·.inst.id)).Nodup →
        SameAnswers (ofInstances xs) (ofInstances ys)) ∧
      ∀ (a b : String) (d e : Document), Document.read? a = some d → Document.read? b = some e →
        Reordered d e → (read? a = none ∧ read? b = none) ∨
          ∃ s t, read? a = some s ∧ read? b = some t ∧
            ((s.listing.map (·.id)).Nodup → SameAnswers s t) := by
  have hsame : ∀ xs ys : List SnapshotInstance, xs.Perm ys → (xs.map (·.inst.id)).Nodup →
      SameAnswers (ofInstances xs) (ofInstances ys) := by
    intro xs ys hperm hids
    exact ofInstances_eq_of_perm hperm hids ▸ .refl _
  refine ⟨honours_cursors, hsame, ?_⟩
  intro a b d e ha hb h
  unfold read? Decoder.ofText?
  rw [ha, hb]
  -- the same instances come in another order, or neither document is a snapshot
  rcases h.decodes Decoder.textRoom with ⟨hd, he⟩ | ⟨xs, ys, hd, he, hperm⟩
  · exact .inl ⟨by simp [hd], by simp [he]⟩
  · refine .inr ⟨ofInstances xs, ofInstances ys, by simp [hd], by simp [he], ?_⟩
    intro hids
    refine hsame xs ys hperm ?_
    unfold listing at hids
    rw [List.map_map] at hids
    exact ((ofInstances_perm xs).map _).nodup_iff.1 hids

/-- Two orders, the later id first. -/
def twoOrders : List SnapshotInstance :=
  ["b", "a"].map fun id =>
    ⟨⟨id, "order", "", none, none⟩, ⟨id, "order", "process", none, [], []⟩, [], .empty⟩

/-- Their document is read back from its text, in either order. -/
theorem read?_twoOrders {xs : List SnapshotInstance} (h : xs ⊆ twoOrders) :
    Document.read? (encodeInstances xs).compact = some (encodeInstances xs).document := by
  have hone : ∀ x ∈ twoOrders, x.encode.Readable := by
    intro x hx
    obtain ⟨id, -, rfl⟩ := List.mem_map.1 hx
    have hempty : (Json.array []).Readable := Json.readable_array (List.forall_mem_nil _)
    have hnone : (Json.object []).Readable := Json.readable_object (List.forall_mem_nil _)
    have htree : (Activity.encode ⟨id, "order", "process", none, [], []⟩).Readable := by
      refine Json.readable_object ?_
      simp [Json.readable_string, Json.readable_null, Json.ofText?, Activity.encodeAll, hempty]
    refine Json.readable_object ?_
    simp [SourceInstance.members, Json.readable_string, Json.readable_null, Json.ofText?,
      Json.ofInstant?, Json.ofMap, SortedMap.map, SortedMap.empty, htree, hempty, hnone]
  have hall : (encodeInstances xs).Readable := by
    refine Json.readable_object ?_
    simpa using Json.readable_array (List.forall_mem_map.2 fun x hx => hone x (h hx))
  unfold Document.read? Json.compact
  rw [String.toList_ofList, Json.ofChars?_of_readable hall]

/-- Two orders are the same source whichever way round they stand. -/
theorem two_orders_are_the_same_either_way :
    ∃ s t, read? (encodeInstances twoOrders).compact = some s ∧
      read? (encodeInstances twoOrders.reverse).compact = some t ∧ SameAnswers s t := by
  obtain ⟨-, -, hdocuments⟩ := honours_cursor_contract
  have hread := read?_twoOrders (List.Subset.refl _)
  have hpair := hdocuments (encodeInstances twoOrders).compact
    (encodeInstances twoOrders.reverse).compact _ _ hread
    (read?_twoOrders (List.reverse_perm _).subset) (.object [] [] (.swap _ _ _))
  rcases hpair with ⟨hnone, -⟩ | ⟨s, t, hs, ht, hsame⟩
  · unfold read? Decoder.ofText? at hnone
    rw [hread] at hnone
    cases hnone
  · refine ⟨s, t, hs, ht, hsame ?_⟩
    unfold read? Decoder.ofText? at hs
    rw [hread] at hs
    cases hs
    exact nodup_ids_ofInstances (by decide)

end SnapshotSource
end ProcessMigration
