import Mathlib.Data.String.Basic
import ProcessMigration.Proofs.Batching
import ProcessMigration.Proofs.Enumeration
import ProcessMigration.Proofs.StoreOrder

/-!
# The listing of the skipped instances

A listing fetches its records page by page and prints each of them as it comes. What is printed in
the end, or up to where the output is full, does not show the pages: it is the text that lists all
skipped records in their order, or as much of it as there is room for.

* `Output.print_append` and `Run.print_append`: two texts are printed one after the other as if they
  were one;
* `Paging.forEach_offset_total`: by offset and with the right total a loop hands out every item of a
  list once;
* `Workspace.listSkipped_run`: the listing prints one text;
* `Workspace.listing_is_complete`: what that text is, and what is left when the output is full.
-/

namespace ProcessMigration

open ProcessMigration.Action (Triple)

/-- Two actions after the same one do the same if they do so in the state that it leaves. -/
theorem Action.run_bind_congr {σ ε α β : Type} {x : Action σ ε α} {f g : α → Action σ ε β} {s : σ}
    (h : ∀ a s', x.run s = (.ok a, s') → (f a).run s' = (g a).run s') :
    (x >>= f).run s = (x >>= g).run s := by
  rw [run_bind, run_bind]
  rcases hx : x.run s with ⟨_ | a, s'⟩
  · rfl
  · exact h a s' hx

/-- Actions that do the same in a state do so with another one behind them. -/
theorem Action.run_bind_left {σ ε α β : Type} {x y : Action σ ε α} {s : σ} (h : x.run s = y.run s)
    (f : α → Action σ ε β) : (x >>= f).run s = (y >>= f).run s := by
  rw [run_bind, run_bind, h]

/-! ## Printing -/

namespace Output

theorem fitting_append {cs ds : List Char} {room : Nat} (h : String.utf8Len cs ≤ room) :
    fitting room (cs ++ ds) = cs ++ fitting (room - String.utf8Len cs) ds := by
  induction cs generalizing room with
  | nil => rfl
  | cons c cs ih =>
    rw [String.utf8Len_cons] at h ⊢
    have hfits : c.utf8Size ≤ room := by omega
    rw [List.cons_append, fitting, if_pos hfits, ih (by omega), Nat.sub_sub, Nat.add_comm]
    rfl

theorem fitting_append_of_lt {cs : List Char} {room : Nat} (h : room < String.utf8Len cs)
    (ds : List Char) : fitting room (cs ++ ds) = fitting room cs := by
  induction cs generalizing room with
  | nil => exact absurd h (Nat.not_lt_zero room)
  | cons c cs ih =>
    rw [String.utf8Len_cons] at h
    rw [List.cons_append, fitting, fitting]
    by_cases hfits : c.utf8Size ≤ room
    · rw [if_pos hfits, if_pos hfits, ih (by omega)]
    · rw [if_neg hfits, if_neg hfits]

/-- What fits is a beginning of the text. -/
theorem fitting_prefix (room : Nat) (cs : List Char) : fitting room cs <+: cs := by
  induction cs generalizing room with
  | nil => exact List.prefix_refl []
  | cons c cs ih =>
    unfold fitting
    split
    · exact List.prefix_cons_inj c |>.2 (ih _)
    · exact List.nil_prefix

theorem utf8Len_toList (s : String) : String.utf8Len s.toList = s.utf8ByteSize := by
  rw [← String.utf8ByteSize_ofList, String.ofList_toList]

/-- A text is printed in two parts as if it were printed at once, also where there is no room for
all of it. -/
theorem print_append (o : Output) (s t : String) :
    o.print (s ++ t) =
      match o.print s with
      | (.ok (), o) => o.print t
      | (.error e, o) => (.error e, o) := by
  rcases o with ⟨text, _ | room⟩
  · show (Except.ok (), Output.mk (text ++ (s ++ t)) none) = (.ok (), ⟨text ++ s ++ t, none⟩)
    rw [String.append_assoc]
  · unfold print
    have hsize := utf8Len_toList s
    by_cases hs : s.utf8ByteSize ≤ room
    · by_cases ht : t.utf8ByteSize ≤ room - s.utf8ByteSize
      · have hboth : (s ++ t).utf8ByteSize ≤ room := by
          rw [String.utf8ByteSize_append]
          omega
        simp only [if_pos hs, if_pos ht, if_pos hboth]
        rw [String.append_assoc, String.utf8ByteSize_append, Nat.sub_sub]
      · -- the room ends inside the second text
        have hnot : ¬(s ++ t).utf8ByteSize ≤ room := by
          rw [String.utf8ByteSize_append]
          omega
        simp only [if_pos hs, if_neg ht, if_neg hnot]
        rw [String.toList_append, fitting_append (by omega), hsize, String.ofList_append,
          String.ofList_toList, String.append_assoc]
    · have hnot : ¬(s ++ t).utf8ByteSize ≤ room := by
        rw [String.utf8ByteSize_append]
        omega
      simp only [if_neg hs, if_neg hnot]
      rw [String.toList_append, fitting_append_of_lt (by omega)]

/-- There is room for all of a text. -/
def Fits (o : Output) (text : String) : Prop :=
  ∀ room, o.room = some room → text.utf8ByteSize ≤ room

theorem print_of_fits {o : Output} {text : String} (h : o.Fits text) :
    o.print text = (.ok (), ⟨o.text ++ text, o.room.map fun room => room - text.utf8ByteSize⟩) := by
  rcases o with ⟨before, _ | room⟩
  · rfl
  · exact if_pos (h room rfl)

theorem utf8Len_fitting (room : Nat) (cs : List Char) : String.utf8Len (fitting room cs) ≤ room := by
  induction cs generalizing room with
  | nil => exact Nat.zero_le room
  | cons c cs ih =>
    unfold fitting
    split
    · next hfits =>
      have hrest := ih (room - c.utf8Size)
      rw [String.utf8Len_cons]
      omega
    · exact Nat.zero_le room

/-- A text that does not fit is printed in part. -/
theorem print_of_not_fits {o : Output} {text : String} (h : ¬o.Fits text) :
    ∃ written : List Char, written <+: text.toList ∧ written ≠ text.toList ∧
      o.print text = (.error .full, ⟨o.text ++ String.ofList written, some 0⟩) := by
  rcases o with ⟨before, _ | room⟩
  · exact absurd (fun room hroom => nomatch hroom) h
  · have hnot : ¬text.utf8ByteSize ≤ room := by
      intro hle
      apply h
      intro room' hroom
      cases hroom
      exact hle
    refine ⟨fitting room text.toList, fitting_prefix room _, ?_, if_neg hnot⟩
    intro hall
    have hlength := utf8Len_fitting room text.toList
    rw [hall, utf8Len_toList] at hlength
    exact hnot hlength

end Output

namespace Run

variable {σ α : Type}

theorem print_append (s t : String) :
    (print (s ++ t) : Run σ Unit) = (do print s; print t) := by
  funext state
  show (print (s ++ t) : Run σ Unit).run state = (do print s; print t : Run σ Unit).run state
  rw [Action.run_bind]
  unfold Action.run print Action.mapError Action.onPart
  dsimp only
  rw [Output.print_append]
  rcases state.output.print s with ⟨r, o⟩
  cases r <;> rfl

/-- Lines behind a text are printed one after the other as if they were one text with it. -/
theorem print_lines (line : α → String) (items : List α) (text : String) :
    (do print text; Action.forAll items fun item => print (line item) : Run σ Unit) =
      print ((items.map line).foldl (· ++ ·) text) := by
  induction items generalizing text with
  | nil => exact bind_pure_unit
  | cons item rest ih =>
    rw [List.map_cons, List.foldl_cons, ← ih, print_append, bind_assoc]
    rfl

end Run

/-! ## The text of a listing -/

/-- The line of a skipped row. -/
def Row.skippedLine (r : Row) : String := r.legacyId ++ ": " ++ r.skipReason.getD "" ++ "\n"

theorem Row.skippedLine_of_read {r : Row} {record : MappingRecord} (h : Store.read r = .ok record) :
    Migrator.skippedLine record = r.skippedLine := by
  unfold Store.read Row.record at h
  split at h
  · cases h
  · split at h
    · cases h
    · cases h
      rfl

theorem Store.ReadAs.skippedLines {rows : List Row} {records : List MappingRecord}
    (h : ReadAs rows records) : records.map Migrator.skippedLine = rows.map Row.skippedLine := by
  unfold ReadAs at h
  induction h with
  | nil => rfl
  | cons hr _ ih => rw [List.map_cons, List.map_cons, ih, Row.skippedLine_of_read hr]

theorem String.toList_foldl_append (lines : List String) (text : String) :
    (lines.foldl (· ++ ·) text).toList = text.toList ++ lines.flatMap String.toList := by
  induction lines generalizing text with
  | nil => exact (List.append_nil _).symm
  | cons line rest ih =>
    rw [List.foldl_cons, ih, String.toList_append, List.append_assoc, List.flatMap_cons]

/-- The heading and a line for each record. -/
theorem Migrator.toList_skippedText {records : List MappingRecord} (h : records ≠ []) :
    (skippedText records).toList =
      skippedHeading.toList ++ (records.map skippedLine).flatMap String.toList := by
  unfold skippedText
  rw [if_neg (by simpa using h), String.toList_foldl_append]

/-! ## Paging by offset up to the right total -/

namespace Paging

variable {α σ ε : Type} {items : List α} {n visited : Nat} {p : Paging α}
  {fetch : PageRequest α → Action σ ε (List α)} {action : α → Action σ ε Unit} {I : σ → Prop}

/-- Where the fetch answers from a list as long as an invariant holds, and what is done with an item
keeps the invariant, every item that is left is handed out once, and none after a failure. -/
theorem forEach_offset_total (hn : 0 < n)
    (hfetch : ∀ visited s, visited < items.length → I s →
      (fetch ⟨visited, n, none⟩).run s = (.ok (window items ⟨visited, n, none⟩), s))
    (haction : ∀ item, Triple I (action item) (fun _ => I) I)
    (hp : ByOffset n (some items.length) visited p) (hvisited : visited ≤ items.length)
    {fetches : Nat} (hfetches : items.length - visited < fetches) :
    ∃ p' : Paging α, p'.itemsVisited = items.length ∧ ∀ s, I s →
      (forEach fetch action fetches p).run s =
        (do Action.forAll (items.drop visited) action; return p' : Action σ ε (Paging α)).run s := by
  -- a page takes at least one item from what is left, and one fetch from those that may be made
  induction hleft : items.length - visited using Nat.strongRecOn generalizing visited p fetches with
  | _ left ih =>
    subst hleft
    rcases Nat.eq_or_lt_of_le hvisited with hall | hmore
    · refine ⟨{ p with exhausted := true }, hp.visited.trans hall, ?_⟩
      intro s _
      rw [forEach_over (hp.finished (Nat.le_of_eq hall.symm)) (by omega), hall, List.drop_length]
      rfl
    · have hrequest := hp.asks fun t ht => by
        cases ht
        exact hmore
      have hpage : window items ⟨visited, n, none⟩ ≠ [] :=
        take_ne_nil hn (List.drop_eq_nil_iff.not.2 (Nat.not_le.2 hmore))
      have hlength := length_window items visited n
      have hsome := List.length_pos_iff.2 hpage
      have henough : items.length - (visited + (window items ⟨visited, n, none⟩).length) <
          fetches - 1 := by omega
      rcases ih _ (by omega) (hp.received hpage) (by omega) henough rfl with ⟨p', hend, hrest⟩
      refine ⟨p', hend, ?_⟩
      intro s hs
      have hitems : items.drop visited = window items ⟨visited, n, none⟩ ++
          items.drop (visited + (window items ⟨visited, n, none⟩).length) := by
        rw [← List.drop_drop]
        exact (take_append_drop_length _ n).symm
      rw [forEach_request hrequest (by omega), Action.run_bind_ok (hfetch visited s hmore hs),
        if_neg (by simpa using hpage), hitems, Action.forAll_append, bind_assoc]
      apply Action.run_bind_congr
      intro _ s' hrun
      have hkeeps : Triple I (Action.forAll (window items ⟨visited, n, none⟩) action) (fun _ => I)
          I := Triple.forAll_keeps fun item _ => haction item
      have hkept := hkeeps.state hs
      rw [hrun] at hkept
      exact hrest s' hkept

end Paging

/-! ## The listing -/

namespace Workspace

variable {rows : List Row} {records : List MappingRecord} {s : RunState Workspace}

theorem print_keeps_world (world : Workspace) (text : String) :
    Triple (fun s => s.world = world) (Run.print text) (fun _ s => s.world = world)
      fun s => s.world = world := by
  intro s hs
  unfold Action.run Run.print Action.mapError Action.onPart
  dsimp only
  rcases s.output.print text with ⟨_ | _, o⟩
  · exact hs
  · exact hs

/-- A page of skipped records is a part of all of them. -/
theorem skippedPage_run (settings : MigrationSettings) (pipeline : Pipeline)
    (hrows : s.world.tables.Holds rows s.world.database) (hrange : rows.length < 2 ^ 63)
    (hread : Store.ReadAs
      (Row.sorted (rows.filter fun r => r.isOf .processInstance && r.isSkipped)) records)
    {visited n : Nat} (hvisited : visited < records.length) (hn : n < 2 ^ 64) :
    ((migrator settings pipeline).skippedPage ⟨visited, n, none⟩).run s =
      (.ok (Paging.window records ⟨visited, n, none⟩), s) := by
  have hlisted : (Row.sorted (rows.filter fun r => r.isOf .processInstance && r.isSkipped)).length ≤
      rows.length := by
    rw [(Row.sorted_perm _).length_eq]
    exact List.length_filter_le _ _
  have hlength := hread.length_eq
  have hpage := List.forall₂_take n (List.forall₂_drop visited hread)
  have hanswer := Store.skipped_run hrows visited n
  rw [Store.cut_eq_slice (by omega) hn (.inr (by omega)), Store.readAs_iff.2 hpage] at hanswer
  exact Run.run_query (x := fun t => Store.skipped t .processInstance visited n) (r := .ok _)
    (fun _ => Store.skipped_readOnly _ _ _) (congrArg Prod.fst hanswer)

/-- The pages of a listing come to the lines of all records. -/
theorem listPages_run (settings : MigrationSettings) (pipeline : Pipeline)
    (hrows : s.world.tables.Holds rows s.world.database) (hrange : rows.length < 2 ^ 63)
    (hsize : settings.pageSize < 2 ^ 64)
    (hread : Store.ReadAs
      (Row.sorted (rows.filter fun r => r.isOf .processInstance && r.isSkipped)) records) :
    ∃ p' : Paging MappingRecord, p'.itemsVisited = records.length ∧ ∀ s', s'.world = s.world →
      (Paging.forEach (migrator settings pipeline).skippedPage
        (fun r => Run.print (Migrator.skippedLine r)) (Paging.enough records.length)
        (Paging.start .offset settings.pageSize (some records.length))).run s' =
      (do Action.forAll records fun r => Run.print (Migrator.skippedLine r)
          return p' : Run Workspace (Paging MappingRecord)).run s' := by
  refine Paging.forEach_offset_total ?_ ?_ ?_
    (Paging.byOffset_start settings.pageSize (some records.length)) (Nat.zero_le _)
    (Nat.lt_succ_self _)
  · omega
  · intro visited s' hvisited hs'
    exact skippedPage_run settings pipeline (hs' ▸ hrows) hrange hread hvisited (by omega)
  · intro r
    exact print_keeps_world s.world (Migrator.skippedLine r)

/-- A listing prints the text that lists all skipped records, as if it were printed at once. -/
theorem listSkipped_run (settings : MigrationSettings) (pipeline : Pipeline)
    (hrows : s.world.tables.Holds rows s.world.database) (hrange : rows.length < 2 ^ 63)
    (hsize : settings.pageSize < 2 ^ 64)
    (hread : Store.ReadAs
      (Row.sorted (rows.filter fun r => r.isOf .processInstance && r.isSkipped)) records) :
    ((migrator settings pipeline).listSkipped).run s =
      (do Run.print (Migrator.skippedText records); return records.length : Run Workspace Nat).run
        s := by
  have hcount : (Run.store (migrator settings pipeline).env.store.countSkipped).run s =
      (.ok records.length, s) := by
    rw [← hread.length_eq]
    exact countListed_run hrows
  unfold Migrator.listSkipped Migrator.skippedText
  rw [Action.run_bind_ok hcount]
  by_cases hnone : records = []
  · subst hnone
    rfl
  · have hsome : records.length ≠ 0 := List.length_eq_zero_iff.not.2 hnone
    rcases listPages_run settings pipeline hrows hrange hsize hread with ⟨p', hvisited, hpages⟩
    rw [if_neg hsome, if_neg (by simpa using hnone), ← Run.print_lines, bind_assoc]
    apply Action.run_bind_congr
    intro _ s₁ hheading
    have hworld := (print_keeps_world s.world Migrator.skippedHeading).state rfl
    rw [hheading] at hworld
    refine (Action.run_bind_left (hpages s₁ hworld) _).trans ?_
    simp only [bind_assoc, pure_bind, hvisited]

/-- What comes of printing a text and answering a number: nothing but the output is different. -/
theorem print_then_run (text : String) (n : Nat) (s : RunState Workspace) :
    (s.output.Fits text →
      (do Run.print text; return n : Run Workspace Nat).run s = (.ok n, { s with
        output := ⟨s.output.text ++ text,
          s.output.room.map fun room => room - text.utf8ByteSize⟩ })) ∧
    (¬s.output.Fits text → ∃ written : List Char, written <+: text.toList ∧ written ≠ text.toList ∧
      (do Run.print text; return n : Run Workspace Nat).run s = (.error (.output .full), { s with
        output := ⟨s.output.text ++ String.ofList written, some 0⟩ })) := by
  constructor
  · intro hfits
    have hprint : (Run.print text).run s = (.ok (), { s with
        output := ⟨s.output.text ++ text,
          s.output.room.map fun room => room - text.utf8ByteSize⟩ }) := by
      unfold Action.run Run.print Action.mapError Action.onPart
      dsimp only
      rw [Output.print_of_fits hfits]
    rw [Action.run_bind_ok hprint]
    rfl
  · intro hfull
    rcases Output.print_of_not_fits hfull with ⟨written, hprefix, hpart, houtput⟩
    have hprint : (Run.print text).run s = (.error (.output .full), { s with
        output := ⟨s.output.text ++ String.ofList written, some 0⟩ }) := by
      unfold Action.run Run.print Action.mapError Action.onPart
      dsimp only
      rw [houtput]
    exact ⟨written, hprefix, hpart, Action.run_bind_error hprint _⟩

/-- **A listing is complete.** Over a store whose start dates are missing or have a year of four
digits, and with pages of any size, it prints the heading and one line for each skipped row, in the
order of start dates and ids, or only that there is none, and answers how many they are. Nothing but
the output changes. Where the output has no room for all of the text, a beginning of it is printed. -/
theorem listing_is_complete (settings : MigrationSettings) (pipeline : Pipeline)
    (s : RunState Workspace) (rows : List Row)
    (hrows : s.world.tables.Holds rows s.world.database) (hlaw : Store.Lawful rows)
    (hdated : ∀ r ∈ rows, r.IsDated) (hrange : rows.length < 2 ^ 63)
    (hsize : settings.pageSize < 2 ^ 64) :
    ∃ records text,
      (Row.sorted (rows.filter Row.isSkipped)).mapM Store.read = .ok records ∧
      records.Pairwise (fun a b => a.cursor.lt b.cursor = true) ∧
      (records.map (·.legacyId)).Perm ((rows.filter Row.isSkipped).map (·.legacyId)) ∧
      (records = [] → text = Migrator.nothingSkipped) ∧
      (records ≠ [] → text.toList = Migrator.skippedHeading.toList ++
        ((Row.sorted (rows.filter Row.isSkipped)).map Row.skippedLine).flatMap String.toList) ∧
      (s.output.Fits text →
        ((migrator settings pipeline).listSkipped).run s = (.ok records.length, { s with
          output := ⟨s.output.text ++ text,
            s.output.room.map fun room => room - text.utf8ByteSize⟩ })) ∧
      (¬s.output.Fits text → ∃ written : List Char,
        written <+: text.toList ∧ written ≠ text.toList ∧
          ((migrator settings pipeline).listSkipped).run s = (.error (.output .full), { s with
            output := ⟨s.output.text ++ String.ofList written, some 0⟩ })) := by
  have hlisted : ∀ r ∈ Row.sorted (rows.filter Row.isSkipped), r.IsDated := by
    intro r hr
    exact hdated r (List.mem_filter.1 (Row.mem_sorted.1 hr)).1
  have hsame : (rows.filter fun r => r.isOf .processInstance && r.isSkipped) =
      rows.filter Row.isSkipped := List.filter_congr fun r hr => Store.isOf_and_isSkipped hdated hr
  rcases Store.readAs_of_isDated hlisted with ⟨records, hread⟩
  have hrun := listSkipped_run settings pipeline hrows hrange hsize (hsame ▸ hread)
  -- the run prints one text, and how much of it the output takes is a matter of printing
  rcases print_then_run (Migrator.skippedText records) records.length s with ⟨hwhole, hpart⟩
  refine ⟨records, Migrator.skippedText records, Store.readAs_iff.2 hread, ?_, ?_, ?_, ?_, ?_, ?_⟩
  · have hids : ((rows.filter Row.isSkipped).map (·.legacyId)).Nodup :=
      hlaw.ids.sublist (List.filter_sublist.map _)
    exact hread.ascending hlisted (Row.sorted_ascending hids)
  · rw [← hread.ids]
    exact (Row.sorted_perm _).map _
  · intro hnone
    rw [hnone]
    rfl
  · intro hsome
    rw [Migrator.toList_skippedText hsome, hread.skippedLines]
  · intro hfits
    exact hrun.trans (hwhole hfits)
  · intro hfull
    rcases hpart hfull with ⟨written, hprefix, hshort, hwritten⟩
    exact ⟨written, hprefix, hshort, hrun.trans hwritten⟩

/-- Two orders were skipped; the one without a start date comes first. -/
def skippedOrders : List Row :=
  [.ofRecord (.skipped "b" (some ⟨1772352000, 0⟩) "no listener"),
    .ofRecord (.migrated "c" 7 (some ⟨1772352060, 0⟩)),
    .ofRecord (.skipped "a" none "two gateways")]

/-- A run over these rows that may print so many bytes. -/
def skippedRun (room : Option Nat) : RunState Workspace :=
  { world := { Session.oneOrder with
      database := ⟨[⟨"migration_mapping", .mapping skippedOrders⟩], []⟩ }
    output := { room } }

/-- The text that lists these orders. -/
def skippedOrdersText : String :=
  "Previously skipped process instances:\na: two gateways\nb: no listener\n"

/-- With pages of size zero, too, both orders are listed. With room for 42 bytes the listing breaks
off inside the first line. -/
theorem skipped_orders_are_listed :
    ((migrator { pageSize := 0 } .empty).listSkipped).run (skippedRun none) =
      (.ok 2, { skippedRun none with output := ⟨skippedOrdersText, none⟩ }) ∧
    ∃ written : List Char, written <+: skippedOrdersText.toList ∧
      written ≠ skippedOrdersText.toList ∧
      ((migrator { pageSize := 0 } .empty).listSkipped).run (skippedRun (some 42)) =
        (.error (.output .full), { skippedRun (some 42) with
          output := ⟨String.ofList written, some 0⟩ }) := by
  have hdated : ∀ r ∈ skippedOrders, r.IsDated := by
    intro r hr
    simp only [skippedOrders, List.mem_cons, List.not_mem_nil, or_false] at hr
    rcases hr with rfl | rfl | rfl
    · refine ⟨_, rfl, ?_⟩
      intro t ht
      cases ht
      unfold Instant.OnClock
      decide
    · refine ⟨_, rfl, ?_⟩
      intro t ht
      cases ht
      unfold Instant.OnClock
      decide
    · refine ⟨_, rfl, ?_⟩
      intro t ht
      cases ht
  have hlaw : Store.Lawful skippedOrders := ⟨by decide, by decide⟩
  have hall := fun room => listing_is_complete { pageSize := 0 } .empty (skippedRun room)
    skippedOrders (by simp [StoreTables.Holds, Database.rows, Database.table?, Database.sameName,
      StoreTables.mapping, skippedRun, Session.oneOrder]) hlaw hdated (by decide) (by decide)
  have hsorted : Row.sorted (skippedOrders.filter Row.isSkipped) =
      [.ofRecord (.skipped "a" none "two gateways"),
        .ofRecord (.skipped "b" (some ⟨1772352000, 0⟩) "no listener")] := by
    refine (Row.eq_sorted (by decide) (.swap _ _ _) ?_).symm
    decide +kernel
  have hread : [Row.ofRecord (.skipped "a" none "two gateways"),
      .ofRecord (.skipped "b" (some ⟨1772352000, 0⟩) "no listener")].mapM Store.read =
      .ok [.skipped "a" none "two gateways", .skipped "b" (some ⟨1772352000, 0⟩) "no listener"] := by
    decide +kernel
  have htext : ∀ text : String, text.toList = Migrator.skippedHeading.toList ++
      ([Row.ofRecord (.skipped "a" none "two gateways"),
        .ofRecord (.skipped "b" (some ⟨1772352000, 0⟩) "no listener")].map
          Row.skippedLine).flatMap String.toList → text = skippedOrdersText := by
    intro text htext
    apply String.toList_inj.1
    rw [htext]
    decide
  constructor
  · rcases hall none with ⟨records, text, hrecords, -, -, -, hlines, hwhole, -⟩
    rw [hsorted] at hrecords hlines
    cases hread.symm.trans hrecords
    have hprinted := hwhole fun room hroom => by cases hroom
    rw [htext text (hlines (List.cons_ne_nil _ _))] at hprinted
    exact hprinted
  · rcases hall (some 42) with ⟨records, text, hrecords, -, -, -, hlines, -, hpart⟩
    rw [hsorted] at hrecords hlines
    cases hread.symm.trans hrecords
    rw [htext text (hlines (List.cons_ne_nil _ _))] at hpart
    exact hpart fun hfits => absurd (hfits 42 rfl) (by decide)

end Workspace
end ProcessMigration
