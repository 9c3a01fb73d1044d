import Mathlib.Algebra.Order.Floor.Div
import ProcessMigration.Proofs.PagingLoop

/-!
# Paging over a list that does not change

A fetch that always answers the same request with the same page makes a listing go through a list in a
fixed way. Where one page ends the next begins, and the listing is over with the first page that shows
it: an empty one, a short one in mode `after`, or the one that reaches the total.

* `Paging.Lists`: the requests of a listing, the items that come in and the listing at its end;
* `Paging.Lists.collect` and `Paging.Lists.forEach`: both loops do what the listing says;
* `Paging.lists_offset` and `Paging.lists_offset_total`: in mode `offset` pages are counted;
* `Paging.lists_after`: in mode `after` each page begins behind the last item;
* `Paging.enumerates_exactly`: all of it from the start.
-/

namespace ProcessMigration

namespace Paging

variable {α κ σ ε : Type} {p p' : Paging α} {request : PageRequest α}
  {requests : List (PageRequest α)} {items : List α}

/-! ## A listing and its answers -/

/-- With these answers the listing makes these requests, these items come in, and this is the listing
at its end. -/
inductive Lists (answer : PageRequest α → List α) :
    Paging α → List (PageRequest α) → List α → Paging α → Prop where
  | finished {p : Paging α} (silent : p.request? = none) :
      Lists answer p [] [] { p with exhausted := true }
  | empty {p : Paging α} {request : PageRequest α} (asked : p.request? = some request)
      (nothing : answer request = []) : Lists answer p [request] [] (p.received [])
  | page {p p' : Paging α} {request : PageRequest α} {requests : List (PageRequest α)}
      {items : List α} (asked : p.request? = some request) (something : answer request ≠ [])
      (rest : Lists answer (p.received (answer request)) requests items p') :
      Lists answer p (request :: requests) (answer request ++ items) p'

namespace Lists

variable {answer : PageRequest α → List α}

theorem page_eq {page : List α} (hasked : p.request? = some request)
    (hpage : answer request = page) (hsome : page ≠ [])
    (hrest : Lists answer (p.received page) requests items p') :
    Lists answer p (request :: requests) (page ++ items) p' := by
  subst hpage
  exact .page hasked hsome hrest

/-- The listing counts its fetches and its items. -/
theorem counts (h : Lists answer p requests items p') :
    p'.pagesFetched = p.pagesFetched + requests.length ∧
      p'.itemsVisited = p.itemsVisited + items.length := by
  induction h with
  | finished _ => exact ⟨rfl, rfl⟩
  | empty _ _ => exact ⟨rfl, rfl⟩
  | page _ _ _ ih =>
    rw [ih.1, ih.2, pagesFetched_received, itemsVisited_received, List.length_append,
      List.length_cons]
    omega

theorem exhausted (h : Lists answer p requests items p') : p'.exhausted = true := by
  induction h with
  | finished _ => rfl
  | empty _ _ => rfl
  | page _ _ _ ih => exact ih

/-- Collecting makes these requests, whatever else a fetch does, and answers with these items. -/
theorem collect (h : Lists answer p requests items p') {fetches : Nat}
    (hfetches : requests.length < fetches) (note : PageRequest α → Action σ ε Unit) :
    Paging.collect (fun r => do note r; return answer r) fetches p =
      (do Action.forAll requests note; return items) := by
  induction h generalizing fetches with
  | finished hover => exact collect_over hover hfetches
  | empty hasked hnothing =>
    rw [collect_request hasked (by omega)]
    simp only [bind_assoc, pure_bind, hnothing, Action.forAll]
    rfl
  | page hasked hsomething _ ih =>
    rw [List.length_cons] at hfetches
    rw [collect_request hasked (by omega)]
    simp only [bind_assoc, pure_bind, Action.forAll]
    rw [if_neg (by simpa using hsomething), ih (by omega)]
    simp only [bind_assoc, pure_bind]

/-- The loop over all items hands out these ones in order. -/
theorem forEach (h : Lists answer p requests items p') {fetches : Nat}
    (hfetches : requests.length < fetches) (action : α → Action σ ε Unit) :
    Paging.forEach (fun r => return answer r) action fetches p =
      (do Action.forAll items action; return p') := by
  induction h generalizing fetches with
  | finished hover => exact forEach_over hover hfetches
  | empty hasked hnothing =>
    rw [forEach_request hasked (by omega), pure_bind, hnothing]
    rfl
  | page hasked hsomething _ ih =>
    rw [List.length_cons] at hfetches
    rw [forEach_request hasked (by omega), pure_bind, if_neg (by simpa using hsomething),
      ih (by omega), Action.forAll_append, bind_assoc]

end Lists

/-! ## Parts of a list -/

/-- What follows a page is what is left behind it. -/
theorem take_append_drop_length (xs : List α) (n : Nat) :
    xs.take n ++ xs.drop (xs.take n).length = xs := by
  rw [List.length_take]
  rcases Nat.le_total n xs.length with hle | hle
  · rw [Nat.min_eq_left hle, List.take_append_drop]
  · rw [Nat.min_eq_right hle, List.take_of_length_le hle, List.drop_length, List.append_nil]

/-- Behind a page there is one page less to come. -/
theorem ceilDiv_sub_page {n m : Nat} (hn : 0 < n) (hm : 0 < m) :
    (m - min n m) ⌈/⌉ n + 1 = m ⌈/⌉ n := by
  simp only [Nat.ceilDiv_eq_add_pred_div]
  rcases Nat.le_total n m with hle | hle
  · rw [Nat.min_eq_left hle, ← Nat.add_div_right _ hn]
    congr 1
    omega
  · have hone : (m + n - 1) / n = 1 := by
      rw [Nat.div_eq_iff hn]
      omega
    have hzero : (m - m + n - 1) / n = 0 := Nat.div_eq_of_lt (by omega)
    rw [Nat.min_eq_right hle, hone, hzero]

/-- So many pages are needed to fill the total, and no fewer. -/
theorem ceilDiv_spec {n : Nat} (hn : 0 < n) (t : Nat) :
    t ≤ n * (t ⌈/⌉ n) ∧ ∀ rest, t ⌈/⌉ n = rest + 1 → n * rest < t := by
  constructor
  · exact le_smul_ceilDiv hn
  · intro rest hrest
    by_contra hnot
    have hle : t ⌈/⌉ n ≤ rest := (ceilDiv_le_iff_le_smul hn).2 (Nat.le_of_not_lt hnot)
    omega

/-! ## By offset -/

/-- The items that stand where a request asks for them. -/
def window (items : List α) (request : PageRequest α) : List α :=
  (items.drop request.offset).take request.limit

theorem length_window (items : List α) (visited n : Nat) :
    (window items ⟨visited, n, none⟩).length = min n (items.length - visited) := by
  rw [window, List.length_take, List.length_drop]

/-- A listing by offset that goes on. -/
structure ByOffset (n : Nat) (total : Option Nat) (visited : Nat) (p : Paging α) : Prop where
  mode : p.mode = .offset
  size : p.pageSize = n
  total : p.total = total
  visited : p.itemsVisited = visited
  goes : p.exhausted = false

theorem byOffset_start (pageSize : Nat) (total : Option Nat) :
    ByOffset (max pageSize 1) total 0 (start .offset pageSize total : Paging α) :=
  ⟨rfl, rfl, rfl, rfl, rfl⟩

namespace ByOffset

variable {n visited : Nat} {total : Option Nat}

/-- The request behind the visited items, unless they have reached the total. -/
theorem asks (h : ByOffset n total visited p) (htotal : ∀ t, total = some t → visited < t) :
    p.request? = some ⟨visited, n, none⟩ := by
  have hreached : p.totalReached = false := by
    unfold totalReached
    rw [h.total]
    cases total with
    | none => rfl
    | some t =>
      have hless := htotal t rfl
      exact decide_eq_false (by rw [h.visited]; omega)
  unfold request?
  rw [h.goes, hreached, h.mode, h.size, h.visited]
  rfl

theorem finished {t : Nat} (h : ByOffset n (some t) visited p) (hle : t ≤ visited) :
    p.request? = none :=
  request?_eq_none.2 (.inr ((totalReached_of_total h.total).2 (by rw [h.visited]; exact hle)))

theorem received (h : ByOffset n total visited p) {page : List α} (hpage : page ≠ []) :
    ByOffset n total (visited + page.length) (p.received page) := by
  unfold Paging.received
  rw [if_neg (by simpa using hpage)]
  constructor
  case mode => exact h.mode
  case size => exact h.size
  case total => exact h.total
  case visited =>
    show p.itemsVisited + page.length = _
    rw [h.visited]
  case goes => simp [h.mode]

end ByOffset

/-- Without a total all items come in, and one page more is asked for than they fill. -/
theorem lists_offset (items : List α) {n visited : Nat} (hn : 0 < n)
    (h : ByOffset n none visited p) :
    ∃ requests p', Lists (window items) p requests (items.drop visited) p' ∧
      requests.length = (items.length - visited) ⌈/⌉ n + 1 := by
  -- every page takes something from what is left, be it as much as was asked for or not
  induction hleft : items.length - visited using Nat.strongRecOn generalizing visited p with
  | _ left ih =>
    subst hleft
    have hrequest := h.asks fun t ht => by cases ht
    by_cases hnothing : items.drop visited = []
    · have hlists : Lists (window items) p [⟨visited, n, none⟩] [] (p.received []) :=
        .empty hrequest (by rw [window, hnothing, List.take_nil])
      refine ⟨_, _, hnothing ▸ hlists, ?_⟩
      rw [Nat.sub_eq_zero_of_le (List.drop_eq_nil_iff.1 hnothing), zero_ceilDiv]
      rfl
    · have hpage : window items ⟨visited, n, none⟩ ≠ [] := take_ne_nil hn hnothing
      have hleft : 0 < items.length - visited := by
        rw [← List.length_drop]
        exact List.length_pos_iff.2 hnothing
      have hshorter := List.length_pos_iff.2 hpage
      obtain ⟨requests, p', hlists, hcount⟩ := ih _ (by omega) (h.received hpage) rfl
      refine ⟨⟨visited, n, none⟩ :: requests, p', ?_, ?_⟩
      · have hitems : items.drop visited = window items ⟨visited, n, none⟩ ++
            items.drop (visited + (window items ⟨visited, n, none⟩).length) := by
          rw [← List.drop_drop]
          exact (take_append_drop_length _ n).symm
        rw [hitems]
        exact .page hrequest hpage hlists
      · rw [List.length_cons, hcount, length_window, Nat.sub_add_eq, ceilDiv_sub_page hn hleft]

/-- Behind the last item no more comes in, whether that is asked for or not. -/
theorem lists_offset_nothing (items : List α) {n visited t : Nat}
    (h : ByOffset n (some t) visited p) (hnothing : items.drop visited = []) :
    ∃ requests p', Lists (window items) p requests [] p' := by
  rcases Nat.lt_or_ge visited t with hless | hle
  · have hrequest := h.asks fun t' ht => by
      cases ht
      exact hless
    exact ⟨_, _, .empty hrequest (by rw [window, hnothing, List.take_nil])⟩
  · exact ⟨_, _, .finished (h.finished hle)⟩

/-- With a total so many pages come in as it fills, `pages` being what is left of them. -/
theorem lists_offset_total (items : List α) {n t : Nat} (hn : 0 < n) (pages : Nat)
    {visited : Nat} (h : ByOffset n (some t) visited p) (hle : t ≤ visited + n * pages)
    (hless : ∀ rest, pages = rest + 1 → visited + n * rest < t) :
    ∃ requests p', Lists (window items) p requests ((items.drop visited).take (n * pages)) p' := by
  induction pages generalizing visited p with
  | zero =>
    rw [Nat.mul_zero, List.take_zero]
    exact ⟨_, _, .finished (h.finished hle)⟩
  | succ pages ih =>
    have hbelow := hless pages rfl
    have hrequest := h.asks fun t' ht => by
      cases ht
      omega
    by_cases hnothing : items.drop visited = []
    · rw [hnothing, List.take_nil]
      exact lists_offset_nothing items h hnothing
    · have hpage : window items ⟨visited, n, none⟩ ≠ [] := take_ne_nil hn hnothing
      have hlength := length_window items visited n
      have hnext := h.received hpage
      have hitems : (items.drop visited).take (n * (pages + 1)) =
          window items ⟨visited, n, none⟩ ++ (items.drop (visited + n)).take (n * pages) := by
        rw [Nat.mul_succ, Nat.add_comm, List.take_add, List.drop_drop]
        rfl
      rw [hitems]
      rcases Nat.lt_or_ge (items.length - visited) n with hshort | hfull
      · -- a short page is the last one: behind it nothing is left
        rw [Nat.min_eq_right (Nat.le_of_lt hshort)] at hlength
        have hend : items.drop (visited + n) = [] := List.drop_eq_nil_iff.2 (by omega)
        obtain ⟨requests, p', hlists⟩ := lists_offset_nothing items hnext
          (List.drop_eq_nil_iff.2 (by omega))
        rw [hend, List.take_nil]
        exact ⟨_, p', .page hrequest hpage hlists⟩
      · rw [Nat.min_eq_left hfull] at hlength
        rw [hlength] at hnext
        obtain ⟨requests, p', hlists⟩ := ih hnext (by rw [Nat.mul_succ] at hle; omega)
          (fun rest hrest => by rw [hrest, Nat.mul_succ] at hbelow; omega)
        exact ⟨_, p', .page hrequest hpage hlists⟩

/-! ## Behind the last item -/

section After

variable [Preorder κ] [DecidableLT κ] {cursor : α → κ} {resume : Option κ}

/-- The items behind a place, or all of them. -/
def behind (cursor : α → κ) (items : List α) : Option κ → List α
  | some place => items.filter fun item => place < cursor item
  | none => items

/-- The first items behind the given one, or behind the resume point when none is given. -/
def cursorPage (cursor : α → κ) (resume : Option κ) (items : List α) (request : PageRequest α) :
    List α :=
  (behind cursor items ((request.after.map cursor).or resume)).take request.limit

/-- In ascending order, what is behind an item are the items that follow it. -/
theorem behind_item (hitems : items.Pairwise fun a b => cursor a < cursor b) {seen rest : List α}
    {item : α} (h : behind cursor items resume = seen ++ item :: rest) :
    behind cursor items (some (cursor item)) = rest := by
  have hmem : item ∈ behind cursor items resume := by
    rw [h]
    exact List.mem_append_right _ List.mem_cons_self
  -- what is behind the item is behind the resume point as well
  have hfilter : behind cursor items (some (cursor item)) =
      (behind cursor items resume).filter fun other => cursor item < cursor other := by
    cases resume with
    | none => rfl
    | some place =>
      have hplace : place < cursor item := of_decide_eq_true (List.mem_filter.1 hmem).2
      unfold behind
      rw [List.filter_filter]
      apply List.filter_congr
      intro other _
      by_cases hother : cursor item < cursor other
      · simp [hother, hplace.trans hother]
      · simp [hother]
  have hsorted : (seen ++ item :: rest).Pairwise fun a b => cursor a < cursor b := by
    rw [← h]
    cases resume with
    | none => exact hitems
    | some place => exact hitems.filter _
  obtain ⟨_, hrest, hseen⟩ := List.pairwise_append.1 hsorted
  have hbefore : seen.filter (fun other => cursor item < cursor other) = [] := by
    apply List.filter_eq_nil_iff.2
    intro other hother
    have hless := hseen other hother item List.mem_cons_self
    simpa using hless.not_gt
  have hafter : rest.filter (fun other => cursor item < cursor other) = rest := by
    apply List.filter_eq_self.2
    intro other hother
    exact decide_eq_true ((List.pairwise_cons.1 hrest).1 other hother)
  rw [hfilter, h, List.filter_append, hbefore, List.filter_cons_of_neg (by simp), hafter]
  rfl

/-- What is behind the last of the items seen, or behind the resume point before any was seen. -/
theorem behind_last (hitems : items.Pairwise fun a b => cursor a < cursor b) {seen rest : List α}
    (h : behind cursor items resume = seen ++ rest) :
    behind cursor items ((seen.getLast?.map cursor).or resume) = rest := by
  rcases List.eq_nil_or_concat seen with rfl | ⟨before, item, rfl⟩
  · exact h
  · rw [List.concat_eq_append, List.append_assoc] at h
    rw [List.concat_eq_append, List.getLast?_append]
    exact behind_item hitems h

/-- A listing that has seen these items and asks for those behind the last one. -/
structure ByCursor (n : Nat) (total : Option Nat) (seen : List α) (p : Paging α) : Prop where
  mode : p.mode = .after
  size : p.pageSize = n
  total : p.total = total
  visited : p.itemsVisited = seen.length
  last : p.last = seen.getLast?

theorem byCursor_start (pageSize : Nat) (total : Option Nat) :
    ByCursor (max pageSize 1) total [] (start .after pageSize total : Paging α) :=
  ⟨rfl, rfl, rfl, rfl, rfl⟩

namespace ByCursor

variable {n : Nat} {total : Option Nat} {seen : List α}

/-- Unless the listing is over, the request is for what is behind the last item. -/
theorem asked_eq (h : ByCursor n total seen p) {request : PageRequest α}
    (hrequest : p.request? = some request) : request = ⟨0, n, seen.getLast?⟩ := by
  unfold request? at hrequest
  split at hrequest
  · cases hrequest
  · cases hrequest
    rw [h.mode, h.size, h.last]

/-- A listing that goes on and yet asks for no more has reached its total. -/
theorem reached (h : ByCursor n total seen p) (hnone : p.request? = none)
    (hgoes : p.exhausted = false) : ∃ t, total = some t ∧ t ≤ seen.length := by
  rcases request?_eq_none.1 hnone with hover | hreached
  · rw [hgoes] at hover
    cases hover
  · cases total with
    | none => simp [totalReached, h.total] at hreached
    | some t =>
      have hle := (totalReached_of_total h.total).1 hreached
      rw [h.visited] at hle
      exact ⟨t, rfl, hle⟩

/-- A page goes behind what was seen; a short one ends the listing. -/
theorem received (h : ByCursor n total seen p) {page : List α} (hpage : page ≠ []) :
    ByCursor n total (seen ++ page) (p.received page) ∧
      (p.received page).exhausted = decide (page.length < n) := by
  unfold Paging.received
  rw [if_neg (by simpa using hpage)]
  refine ⟨⟨h.mode, h.size, h.total, ?_, ?_⟩, ?_⟩
  · show p.itemsVisited + page.length = _
    rw [h.visited, List.length_append]
  · show (if p.mode = .after then page.getLast? else p.last) = _
    rw [if_pos h.mode, List.getLast?_append_of_ne_nil _ hpage]
  · show (decide (p.mode = .after) && decide (page.length < p.pageSize)) = _
    rw [h.size, decide_eq_true h.mode, Bool.true_and]

end ByCursor

/-- All items behind the resume point come in, in order; without a total that takes as many fetches as
there are full pages, and one. -/
theorem lists_after {n : Nat} (hn : 0 < n) {total : Option Nat}
    (hitems : items.Pairwise fun a b => cursor a < cursor b) {seen rest : List α}
    (hrest : behind cursor items resume = seen ++ rest)
    (htotal : ∀ t, total = some t → (seen ++ rest).length ≤ t) (h : ByCursor n total seen p)
    (hgoes : p.exhausted = false) :
    ∃ requests p', Lists (cursorPage cursor resume items) p requests rest p' ∧
      (total = none → requests.length = rest.length / n + 1) := by
  -- the seen items grow by what is taken from the rest: together they stay what stands behind the
  -- resume point
  induction hlength : rest.length using Nat.strongRecOn generalizing seen rest p with
  | _ length ih =>
    subst hlength
    cases hrequest : p.request? with
    | none =>
      -- the total is reached, and it was no less than there are items
      obtain ⟨t, ht, hle⟩ := h.reached hrequest hgoes
      have hnothing : rest = [] := by
        have hlength := htotal t ht
        rw [List.length_append] at hlength
        exact List.length_eq_zero_iff.1 (by omega)
      subst hnothing
      exact ⟨_, _, .finished hrequest, fun hnone => by rw [ht] at hnone; cases hnone⟩
    | some request =>
      have hasked := h.asked_eq hrequest
      subst hasked
      have hpage : cursorPage cursor resume items ⟨0, n, seen.getLast?⟩ = rest.take n := by
        unfold cursorPage
        rw [behind_last hitems hrest]
      by_cases hnothing : rest = []
      · subst hnothing
        rw [List.take_nil] at hpage
        exact ⟨_, _, .empty hrequest hpage, fun _ => by simp⟩
      · have hsome : rest.take n ≠ [] := take_ne_nil hn hnothing
        obtain ⟨hnext, hover⟩ := h.received hsome
        rw [List.length_take] at hover
        have hsplit : rest = rest.take n ++ rest.drop n := (List.take_append_drop n rest).symm
        rcases Nat.lt_or_ge rest.length n with hshort | hfull
        · -- a short page is the last one
          rw [Nat.min_eq_right (Nat.le_of_lt hshort), decide_eq_true hshort] at hover
          have hlists := Lists.page_eq hrequest hpage hsome
            (.finished (request?_eq_none.2 (.inl hover)))
          rw [List.append_nil, List.take_of_length_le (Nat.le_of_lt hshort)] at hlists
          refine ⟨_, _, hlists, ?_⟩
          intro _
          rw [Nat.div_eq_of_lt hshort]
          rfl
        · rw [Nat.min_eq_left hfull, decide_eq_false (Nat.lt_irrefl n)] at hover
          have hrest' : behind cursor items resume = (seen ++ rest.take n) ++ rest.drop n := by
            rw [List.append_assoc, ← hsplit]
            exact hrest
          have htotal' : ∀ t, total = some t → ((seen ++ rest.take n) ++ rest.drop n).length ≤ t := by
            rw [List.append_assoc, ← hsplit]
            exact htotal
          obtain ⟨requests, p', hlists, hcount⟩ :=
            ih _ (by rw [List.length_drop]; omega) hrest' htotal' hnext hover rfl
          refine ⟨⟨0, n, seen.getLast?⟩ :: requests, p', ?_, ?_⟩
          · have hlists' := Lists.page_eq hrequest hpage hsome hlists
            rw [← hsplit] at hlists'
            exact hlists'
          · intro hnone
            rw [List.length_cons, hcount hnone, List.length_drop, Nat.div_eq_sub_div hn hfull]

end After

/-! ## From the start -/

/-- A listing from its start, with a fetch that answers like this: whatever else happens when a page
is fetched or an item is handed out, these requests are made and these items come in, in order, and
the listing counts both. -/
structure Enumerates (answer : PageRequest α → List α) (p : Paging α) (items : List α)
    (requests : List (PageRequest α)) : Prop where
  collected : ∀ {σ ε : Type} (note : PageRequest α → Action σ ε Unit) (fetches : Nat),
    requests.length < fetches →
      collect (fun r => do note r; return answer r) fetches p =
        (do Action.forAll requests note; return items)
  handedOut : ∃ p' : Paging α, p'.exhausted = true ∧ p'.pagesFetched = requests.length ∧
    p'.itemsVisited = items.length ∧
    ∀ {σ ε : Type} (action : α → Action σ ε Unit) (fetches : Nat), requests.length < fetches →
      forEach (fun r => return answer r) action fetches p =
        (do Action.forAll items action; return p')

theorem Lists.enumerates {answer : PageRequest α → List α} {mode : PagingMode} {pageSize : Nat}
    {total : Option Nat} (h : Lists answer (start mode pageSize total) requests items p') :
    Enumerates answer (start mode pageSize total) items requests := by
  obtain ⟨hfetched, hvisited⟩ := h.counts
  refine ⟨fun note fetches hfetches => h.collect hfetches note, p', h.exhausted, ?_, ?_, ?_⟩
  · rw [hfetched]
    exact Nat.zero_add _
  · rw [hvisited]
    exact Nat.zero_add _
  · intro σ ε action fetches hfetches
    exact h.forEach hfetches action

/-- **Offset and cursor paging enumerate exactly.** By offset a list comes in as far as the pages go
that the total fills; behind a place everything comes in that stands there, for every total that is
large enough. -/
theorem enumerates_exactly {α κ : Type} [Preorder κ] [DecidableLT κ] (cursor : α → κ)
    (items : List α) (pageSize : Nat) :
    (∃ requests, Enumerates (window items) (start .offset pageSize none) items requests ∧
      requests.length = items.length ⌈/⌉ max pageSize 1 + 1) ∧
    (∀ t, ∃ requests, Enumerates (window items) (start .offset pageSize (some t))
      (items.take (min items.length (max pageSize 1 * (t ⌈/⌉ max pageSize 1)))) requests) ∧
    ((items.Pairwise fun a b => cursor a < cursor b) → ∀ resume : Option κ,
      (∃ requests, Enumerates (cursorPage cursor resume items) (start .after pageSize none)
        (behind cursor items resume) requests ∧
        requests.length = (behind cursor items resume).length / max pageSize 1 + 1) ∧
      ∀ t, (behind cursor items resume).length ≤ t → ∃ requests,
        Enumerates (cursorPage cursor resume items) (start .after pageSize (some t))
          (behind cursor items resume) requests) := by
  have hn : 0 < max pageSize 1 := by omega
  refine ⟨?_, ?_, ?_⟩
  · obtain ⟨requests, p', hlists, hcount⟩ :=
      lists_offset items hn (byOffset_start pageSize none)
    exact ⟨requests, hlists.enumerates, hcount⟩
  · intro t
    -- the total is a number of items, the loop stops at the page that fills it
    obtain ⟨hle, hless⟩ := ceilDiv_spec hn t
    rw [← Nat.zero_add (_ * _)] at hle
    obtain ⟨requests, p', hlists⟩ := lists_offset_total items hn _
      (byOffset_start pageSize (some t)) hle fun rest hrest => by
        rw [Nat.zero_add]
        exact hless rest hrest
    rw [List.drop_zero, List.take_eq_take_min, Nat.min_comm] at hlists
    exact ⟨requests, hlists.enumerates⟩
  · intro hitems resume
    constructor
    · -- nothing has been seen yet, so everything behind the resume point is still to come
      obtain ⟨requests, p', hlists, hcount⟩ := lists_after hn hitems (List.nil_append _).symm
        (fun t ht => by cases ht) (byCursor_start pageSize none) rfl
      exact ⟨requests, hlists.enumerates, hcount rfl⟩
    · intro t ht
      obtain ⟨requests, p', hlists, _⟩ := lists_after hn hitems (List.nil_append _).symm
        (fun t' ht' => by cases ht'; exact ht) (byCursor_start pageSize (some t)) rfl
      exact ⟨requests, hlists.enumerates⟩

/-- Behind 5 three primes follow: a full page, and an empty one that ends the listing. -/
theorem primes_are_enumerated :
    ([2, 3, 5, 7, 11, 13] : List Nat).Pairwise (fun a b => id a < id b) ∧ ∃ requests,
      Enumerates (cursorPage id (some 5) [2, 3, 5, 7, 11, 13]) (start .after 3 none) [7, 11, 13]
        requests ∧ requests.length = 2 := by
  have hsorted : ([2, 3, 5, 7, 11, 13] : List Nat).Pairwise (fun a b => id a < id b) := by decide
  obtain ⟨_, _, hcursor⟩ := enumerates_exactly (id : Nat → Nat) [2, 3, 5, 7, 11, 13] 3
  exact ⟨hsorted, (hcursor hsorted (some 5)).1⟩

end Paging
end ProcessMigration
