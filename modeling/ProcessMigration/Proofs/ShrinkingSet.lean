import Mathlib.Data.List.Nodup
import ProcessMigration.Proofs.PagingLoop

/-!
# Paging over a set that shrinks

A caller goes through a set page by page and takes items out of it meanwhile. What it keeps stands in
front of what it has not seen yet, so a page begins behind the kept items.

* `Caller` decides item by item, on account of everything it has seen so far;
* `Survey.At`: the set is the kept items followed by those still to come, with a lemma for each item
  and each page;
* `Paging.pinned_visits_each_once`: every item is visited once, and the kept ones are left.
-/

namespace ProcessMigration

variable {α τ ε : Type}

/-- How a caller decides: it looks at each page, and then says of one item after the other whether it
stays. What it has seen so far is in its mind. -/
structure Caller (α τ : Type) where
  look : List α → τ → τ
  stays : α → τ → Bool × τ

/-- The set, what was visited of it and whether it was kept, and the mind of the caller. -/
structure Survey (α τ : Type) where
  items : List α
  visited : List (α × Bool)
  mind : τ

namespace Survey

/-- A set before it is visited. -/
def start (items : List α) (mind : τ) : Survey α τ := ⟨items, [], mind⟩

/-- The items that were kept. -/
def kept (s : Survey α τ) : List α := (s.visited.filter fun v => v.2).map fun v => v.1

/-- Answers a request from the set as it is. -/
def fetch (request : PageRequest α) : Action (Survey α τ) ε (List α) := do
  let s ← Action.get
  return (s.items.drop request.offset).take request.limit

end Survey

namespace Caller

variable [DecidableEq α]

/-- Visits an item: it is kept, and that is reported, or it is taken out of the set. -/
def visit (c : Caller α τ) (p : Paging α) (item : α) : Action (Survey α τ) ε (Paging α) := do
  let s ← Action.get
  match c.stays item s.mind with
  | (true, mind) =>
    Action.modify fun s => ⟨s.items, s.visited ++ [(item, true)], mind⟩
    return p.keepOne
  | (false, mind) =>
    Action.modify fun s => ⟨s.items.erase item, s.visited ++ [(item, false)], mind⟩
    return p

/-- Visits items one after the other. -/
def visitAll (c : Caller α τ) (p : Paging α) : List α → Action (Survey α τ) ε (Paging α)
  | [] => return p
  | item :: rest => do
    let p ← c.visit p item
    visitAll c p rest

/-- Visits the items of a page. -/
def visitPage (c : Caller α τ) (p : Paging α) (page : List α) :
    Action (Survey α τ) ε (Paging α) := do
  Action.modify fun s => { s with mind := c.look page s.mind }
  c.visitAll p page

end Caller

/-! ## The kept items and those to come -/

namespace Survey

variable {items later : List α} {s s' : Survey α τ}

/-- These items are still to be visited, and the set is what was kept and they. -/
structure At (items later : List α) (s : Survey α τ) : Prop where
  passed : items = s.visited.map (·.1) ++ later
  left : s.items = s.kept ++ later

theorem at_start (items : List α) (mind : τ) : At items items (start items mind) := ⟨rfl, rfl⟩

theorem mem_visited_of_mem_kept {item : α} (h : item ∈ s.kept) : item ∈ s.visited.map (·.1) := by
  obtain ⟨v, hv, rfl⟩ := List.mem_map.1 h
  exact List.mem_map_of_mem (List.mem_filter.1 hv).1

/-- What a page is that begins behind the kept items. -/
theorem At.page (h : At items later s) (limit : Nat) :
    (s.items.drop s.kept.length).take limit = later.take limit := by
  rw [h.left, List.drop_left]

/-- What is kept after one visit more. -/
theorem kept_snoc (items visited : List _) (v : α × Bool) (mind : τ) :
    kept ⟨items, visited ++ [v], mind⟩ =
      kept ⟨items, visited, mind⟩ ++ if v.2 then [v.1] else [] := by
  unfold kept
  rw [List.filter_append, List.map_append]
  cases hv : v.2 <;> simp [hv]

/-- An item that is kept. -/
theorem At.keep {item : α} (h : At items (item :: later) s) (mind : τ) :
    At items later { s with visited := s.visited ++ [(item, true)], mind } := by
  constructor
  · rw [h.passed]
    simp
  · rw [kept_snoc]
    show s.items = s.kept ++ [item] ++ later
    rw [h.left, List.append_assoc]
    rfl

/-- An item that is taken out. -/
theorem At.erase [DecidableEq α] {item : α} (h : At items (item :: later) s)
    (hnodup : items.Nodup) (mind : τ) :
    At items later
      { items := s.items.erase item, visited := s.visited ++ [(item, false)], mind } := by
  have hnew : item ∉ s.kept := by
    intro hkept
    rw [h.passed] at hnodup
    have hdisjoint := (List.nodup_append.1 hnodup).2.2
    exact hdisjoint _ (mem_visited_of_mem_kept hkept) _ List.mem_cons_self rfl
  constructor
  · rw [h.passed]
    simp
  · rw [kept_snoc]
    show s.items.erase item = s.kept ++ [] ++ later
    rw [h.left, List.erase_append_right _ hnew, List.erase_cons_head, List.append_nil]

end Survey

/-! ## Visits -/

namespace Caller

variable {items later : List α} {s : Survey α τ} {p : Paging α}

/-- The listing with as many items kept as the caller has kept. -/
def inStep (s : Survey α τ) (p : Paging α) : Paging α := { p with kept := s.kept.length }

theorem inStep_eq (h : p.kept = s.kept.length) : inStep s p = p := by
  unfold inStep
  rw [← h]

variable [DecidableEq α]

/-- A visit goes on to the next item; the listing counts what is kept. -/
theorem visit_run (c : Caller α τ) (hnodup : items.Nodup) {item : α}
    (h : s.At items (item :: later)) (hkept : p.kept = s.kept.length) :
    ∃ s', (c.visit p item : Action _ ε _).run s = (.ok (inStep s' p), s') ∧ s'.At items later := by
  rcases hdecided : c.stays item s.mind with ⟨stays, mind⟩
  unfold visit
  rw [Action.run_bind, Action.run_get]
  simp only [hdecided]
  cases stays with
  | true =>
    refine ⟨_, ?_, h.keep mind⟩
    have hcount : p.keepOne = inStep ⟨s.items, s.visited ++ [(item, true)], mind⟩ p := by
      unfold Paging.keepOne inStep
      rw [Survey.kept_snoc, hkept, List.length_append]
      rfl
    rw [hcount]
    rfl
  | false =>
    refine ⟨_, ?_, h.erase hnodup mind⟩
    have hcount : p.kept =
        (Survey.kept ⟨s.items.erase item, s.visited ++ [(item, false)], mind⟩).length := by
      rw [Survey.kept_snoc, hkept, List.length_append]
      rfl
    rw [inStep_eq hcount]
    rfl

/-- The caller goes through items one after the other. -/
theorem visitAll_run (c : Caller α τ) (hnodup : items.Nodup) {page : List α}
    (h : s.At items (page ++ later)) (hkept : p.kept = s.kept.length) :
    ∃ s', (c.visitAll p page : Action _ ε _).run s = (.ok (inStep s' p), s') ∧
      s'.At items later := by
  induction page generalizing p s with
  | nil => exact ⟨s, by rw [inStep_eq hkept]; rfl, h⟩
  | cons item page ih =>
    obtain ⟨s₁, hvisit, h₁⟩ := c.visit_run hnodup h hkept
    obtain ⟨s', hrest, h'⟩ := ih (p := inStep s₁ p) h₁ rfl
    exact ⟨s', (Action.run_bind_ok hvisit _).trans hrest, h'⟩

/-- What the caller makes of the page as a whole is in its mind only. -/
theorem visitPage_run (c : Caller α τ) (hnodup : items.Nodup) {page : List α}
    (h : s.At items (page ++ later)) (hkept : p.kept = s.kept.length) :
    ∃ s', (c.visitPage p page : Action _ ε _).run s = (.ok (inStep s' p), s') ∧
      s'.At items later :=
  c.visitAll_run (s := { s with mind := c.look page s.mind }) hnodup ⟨h.passed, h.left⟩ hkept

end Caller

/-! ## The loop -/

namespace Paging

variable {items later : List α} {s : Survey α τ} {p : Paging α} {total : Option Nat} {n : Nat}

/-- A pinned listing before its next page. -/
structure Pinned (n : Nat) (items later : List α) (s : Survey α τ) (p : Paging α) : Prop where
  mode : p.mode = .pinned
  size : p.pageSize = max n 1
  total : p.total = none ∨ p.total = some items.length
  kept : p.kept = s.kept.length
  visited : p.itemsVisited + later.length = items.length
  exhausted : p.exhausted = true → later = []

theorem pinned_start (n : Nat) (items : List α) (mind : τ)
    (htotal : total = none ∨ total = some items.length) :
    Pinned n items items (Survey.start items mind) (start .pinned n total) where
  mode := rfl
  size := rfl
  total := htotal
  kept := rfl
  visited := Nat.zero_add _
  exhausted h := by cases h

namespace Pinned

/-- When no page is asked for any more, no item is left. -/
theorem nothing_left (h : Pinned n items later s p) (hnone : p.request? = none) : later = [] := by
  rcases request?_eq_none.1 hnone with hover | hreached
  · exact h.exhausted hover
  · rcases h.total with htotal | htotal
    · simp [totalReached, htotal] at hreached
    · have hle := (totalReached_of_total htotal).1 hreached
      have hvisited := h.visited
      exact List.length_eq_zero_iff.1 (by omega)

/-- The next page begins with the item that comes next. -/
theorem request (h : Pinned n items later s p) {request : PageRequest α}
    (hrequest : p.request? = some request) (hat : s.At items later) :
    (Survey.fetch request : Action _ ε _).run s = (.ok (later.take (max n 1)), s) := by
  have hpage := hat.page (max n 1)
  unfold request? at hrequest
  split at hrequest
  · cases hrequest
  · cases hrequest
    show (Except.ok ((s.items.drop _).take p.pageSize), s) = _
    rw [h.mode, h.size]
    show (Except.ok ((s.items.drop p.kept).take (max n 1)), s) = _
    rw [h.kept, hpage]

/-- A page that holds something is visited. -/
theorem received (h : Pinned n items later s p) {page later' : List α} (hlater : later = page ++ later')
    (hpage : page ≠ []) {s' : Survey α τ} :
    Pinned n items later' s' (Caller.inStep s' (p.received page)) := by
  have hvisited := h.visited
  rw [hlater, List.length_append] at hvisited
  unfold Paging.received
  rw [if_neg (by simpa using hpage)]
  constructor
  case mode => exact h.mode
  case size => exact h.size
  case total => exact h.total
  case kept => rfl
  case visited =>
    show p.itemsVisited + page.length + later'.length = items.length
    omega
  case exhausted =>
    intro hover
    -- a short page does not end a pinned listing
    simp [Caller.inStep, h.mode] at hover

end Pinned

/-- What the loop leads to: nothing is left to visit, and the listing has counted everything. -/
structure Surveyed (items : List α) (s : Survey α τ) (p : Paging α) : Prop where
  finished : p.exhausted = true
  place : s.At items []
  kept : p.kept = s.kept.length
  visited : p.itemsVisited = items.length

/-- The loop from any page on. -/
theorem forPages_pinned [DecidableEq α] (c : Caller α τ) (hnodup : items.Nodup)
    (hat : s.At items later) (h : Pinned n items later s p) :
    ∃ p' s', (∀ fetches, later.length < fetches →
        (forPages Survey.fetch c.visitPage fetches p : Action _ ε _).run s = (.ok p', s')) ∧
      Surveyed items s' p' := by
  -- `Survey.At` and `Pinned` hold before each page, and less is to come after it
  induction hlength : later.length using Nat.strongRecOn generalizing later s p with
  | _ length ih =>
    subst hlength
    cases hrequest : p.request? with
    | none =>
      have hnothing := h.nothing_left hrequest
      subst hnothing
      refine ⟨{ p with exhausted := true }, s, ?_, rfl, hat, h.kept, h.visited⟩
      intro fetches hfetches
      rw [forPages_over hrequest hfetches]
      rfl
    | some request =>
      have hfetch := h.request (ε := ε) hrequest hat
      by_cases hlater : later = []
      · subst hlater
        refine ⟨p.received [], s, ?_, rfl, hat, h.kept, h.visited⟩
        intro fetches hfetches
        rw [List.take_nil] at hfetch
        rw [forPages_request hrequest hfetches, Action.run_bind_ok hfetch]
        rfl
      · have hpage : later.take (max n 1) ≠ [] := take_ne_nil (by omega) hlater
        have hsplit : later = later.take (max n 1) ++ later.drop (max n 1) :=
          (List.take_append_drop _ _).symm
        have hkept : (p.received (later.take (max n 1))).kept = s.kept.length :=
          (kept_received p _).trans h.kept
        obtain ⟨s₁, hvisit, hat₁⟩ := c.visitPage_run (ε := ε) hnodup (hsplit ▸ hat) hkept
        have hshorter : (later.drop (max n 1)).length < later.length := by
          have hpositive := List.length_pos_iff.2 hlater
          rw [List.length_drop]
          omega
        obtain ⟨p', s', hends, hsurveyed⟩ := ih _ hshorter hat₁ (h.received hsplit hpage) rfl
        refine ⟨p', s', ?_, hsurveyed⟩
        intro fetches hfetches
        rw [forPages_request hrequest (by omega), Action.run_bind_ok hfetch,
          if_neg (by simpa using hpage), Action.run_bind_ok hvisit]
        exact hends (fetches - 1) (by omega)

/-- **Pinned paging over a shrinking set**: however the caller decides, the loop ends, every item is
visited once in the order of the set, and the set that is left is the kept items in order. -/
theorem pinned_visits_each_once [DecidableEq α] (c : Caller α τ) {items : List α}
    (hnodup : items.Nodup) (pageSize : Nat) {total : Option Nat}
    (htotal : total = none ∨ total = some items.length) (mind : τ) :
    ∃ (p' : Paging α) (s' : Survey α τ),
      (∀ fetches, items.length < fetches →
        (forPages Survey.fetch c.visitPage fetches (start .pinned pageSize total) :
          Action _ ε _).run (.start items mind) = (.ok p', s')) ∧
      p'.exhausted = true ∧ s'.visited.map (·.1) = items ∧ s'.items = s'.kept ∧
      p'.kept = s'.kept.length ∧ p'.itemsVisited = items.length := by
  obtain ⟨p', s', hends, hsurveyed⟩ := forPages_pinned (ε := ε) c hnodup
    (Survey.at_start items mind) (pinned_start pageSize items mind htotal)
  refine ⟨p', s', hends, hsurveyed.finished, ?_, ?_, hsurveyed.kept, hsurveyed.visited⟩
  · have hpassed := hsurveyed.place.passed
    rw [List.append_nil] at hpassed
    exact hpassed.symm
  · have hleft := hsurveyed.place.left
    rw [List.append_nil] at hleft
    exact hleft

/-- A caller that keeps every second item that it sees. -/
def everySecond : Caller String Nat := ⟨fun _ seen => seen, fun _ seen => (seen % 2 == 1, seen + 1)⟩

theorem every_second_is_left :
    ["e", "b", "d", "a", "c"].Nodup ∧ ∃ (p' : Paging String) (s' : Survey String Nat),
      (∀ fetches, ["e", "b", "d", "a", "c"].length < fetches →
        (forPages Survey.fetch everySecond.visitPage fetches (start .pinned 2 (some 5)) :
          Action _ Empty _).run (.start ["e", "b", "d", "a", "c"] 0) = (.ok p', s')) ∧
      p'.exhausted = true ∧ s'.visited.map (·.1) = ["e", "b", "d", "a", "c"] ∧
      s'.items = s'.kept ∧ p'.kept = s'.kept.length ∧ p'.itemsVisited = 5 :=
  ⟨by decide, pinned_visits_each_once everySecond (by decide) 2 (.inr rfl) 0⟩

end Paging
end ProcessMigration
