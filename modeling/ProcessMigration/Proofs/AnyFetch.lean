import ProcessMigration.Paging.Calls
import ProcessMigration.Proofs.PagingLoop

/-!
# Paging whatever the fetch does

A fetch may answer with any page, longer than it was asked for, empty or repeated, and it may fail at
any time. A listing stays in order all the same.

* `Paging.run_pull`: the call that changes the listing in place does what `Paging.next` says, and when
  its fetch fails it leaves the listing as it was;
* `Paging.Orderly`: what holds of a listing and of all that was asked and answered so far, with a
  lemma for each call;
* `Paging.run?_filter`: calls whose fetch fails can be left out;
* `Paging.forEach_ends`: with a total the loop ends;
* `Paging.Visits` is the way of the loop through a listing, `Paging.Visits.run` that it takes it, and
  `Paging.Visits.seen` what the callback has seen when the loop ends or fails;
* `Paging.any_fetch_is_safe`: all of it.
-/

namespace ProcessMigration

namespace Paging

variable {σ ε α β : Type} {p q : Paging α} {request : PageRequest α}

/-! ## The next page, in place -/

/-- The reply of a call and the listing that it leaves: the next one, or the same as before when the
fetch has failed. -/
def inPlace (p : Paging α) :
    Except ε (Option (List α) × Paging α) × σ → Except ε (Option (List α)) × (Paging α × σ)
  | (.ok (page, p'), s) => (.ok page, (p', s))
  | (.error e, s) => (.error e, (p, s))

@[simp] theorem run_change (f : Paging α → Paging α) (t : Paging α × σ) :
    (change f : Action (Paging α × σ) ε Unit).run t = (.ok (), (f t.1, t.2)) :=
  rfl

/-- What is written when a page comes in adds up to the listing that has received it. -/
theorem run_receive (hgoes : p.exhausted = false) (page : List α) (s : σ) :
    (receive page : Action _ ε _).run (p, s) =
      (.ok (if page.isEmpty then none else some page), (p.received page, s)) := by
  unfold receive
  by_cases hempty : page.isEmpty
  · simp [-bind_pure_comp, Action.run_bind, received, hempty]
  · by_cases hafter : p.mode = .after
    · by_cases hshort : page.length < p.pageSize
      · simp [-bind_pure_comp, Action.run_bind, received, hempty, hafter, hshort]
      · simp [-bind_pure_comp, Action.run_bind, received, hempty, hafter, hshort, hgoes]
    · -- in the other modes neither a short page nor the last item is noted
      simp [-bind_pure_comp, Action.run_bind, received, hempty, hafter, hgoes]

/-- The call that changes the listing in place does what `next` says. -/
theorem run_pull (fetch : PageRequest α → Action σ ε (List α)) (p : Paging α) (s : σ) :
    (pull fetch).run (p, s) = inPlace p ((p.next fetch).run s) := by
  unfold pull
  rw [Action.run_bind, Action.run_get]
  dsimp only
  cases hrequest : p.request? with
  | none =>
    rw [next_over hrequest]
    rfl
  | some request =>
    have hpart : ((fetch request).onPart Prod.snd fun s t => (t.1, s)).run (p, s) =
        match (fetch request).run s with
        | (r, s') => (r, (p, s')) := rfl
    rw [next_request hrequest, Action.run_bind, Action.run_bind]
    rcases hfetch : (fetch request).run s with ⟨r, s'⟩
    rw [hfetch] at hpart
    cases r with
    | error e =>
      rw [hpart]
      rfl
    | ok page =>
      rw [hpart]
      exact run_receive (exhausted_of_request? hrequest) page s'

end Paging

/-! ## One call -/

namespace PagingCall

variable {σ ε α β : Type} {p p' : Paging α} {request : PageRequest α} {x : Exchange α ε}

/-- A call for the next page when the listing is over: no fetch is made. -/
theorem perform?_over (h : p.request? = none) (answer : Except ε (List α)) :
    (next answer).perform? p =
      some ({ p with exhausted := true }, ⟨next answer, none, some (.ok none)⟩) := by
  unfold perform?
  simp only [Paging.run_pull, Paging.next_over h]
  rfl

/-- A call whose fetch fails. -/
theorem perform?_failed (h : p.request? = some request) (e : ε) :
    (next (.error e)).perform? p =
      some (p, ⟨next (.error e), some request, some (.error e)⟩) := by
  unfold perform?
  simp only [Paging.run_pull, Paging.next_request h]
  rfl

/-- A call whose fetch answers with a page. -/
theorem perform?_page (h : p.request? = some request) (page : List α) :
    (next (.ok page) : PagingCall α ε).perform? p =
      some (p.received page, ⟨next (.ok page), some request,
        some (.ok (if page.isEmpty then none else some page))⟩) := by
  unfold perform?
  simp only [Paging.run_pull, Paging.next_request h]
  rfl

/-- What a call can do. -/
inductive Does (p : Paging α) : PagingCall α ε → Paging α → Exchange α ε → Prop where
  | finished {answer : Except ε (List α)} (silent : p.request? = none) :
      Does p (next answer) { p with exhausted := true } ⟨next answer, none, some (.ok none)⟩
  | failed {request : PageRequest α} {e : ε} (asked : p.request? = some request) :
      Does p (next (.error e)) p ⟨next (.error e), some request, some (.error e)⟩
  | empty {request : PageRequest α} (asked : p.request? = some request) :
      Does p (next (.ok [])) (p.received []) ⟨next (.ok []), some request, some (.ok none)⟩
  | page {request : PageRequest α} {page : List α} (asked : p.request? = some request)
      (nonempty : page ≠ []) :
      Does p (next (.ok page)) (p.received page)
        ⟨next (.ok page), some request, some (.ok (some page))⟩
  | keep {count : Nat} {p' : Paging α} (kept : p.keep? count = some p') :
      Does p (keep count) p' ⟨keep count, none, none⟩

theorem does_of_perform? {c : PagingCall α ε} (h : c.perform? p = some (p', x)) : Does p c p' x := by
  cases c with
  | next answer =>
    cases hrequest : p.request? with
    | none =>
      rw [perform?_over hrequest] at h
      cases h
      exact .finished hrequest
    | some request =>
      cases answer with
      | error e =>
        rw [perform?_failed hrequest] at h
        cases h
        exact .failed hrequest
      | ok page =>
        rw [perform?_page hrequest] at h
        cases h
        cases page with
        | nil => exact .empty hrequest
        | cons item page => exact .page hrequest (List.cons_ne_nil item page)
  | keep count =>
    obtain ⟨p'', hkept, heq⟩ := Option.map_eq_some_iff.1 h
    cases heq
    exact .keep hkept

end PagingCall

namespace Paging

variable {σ ε α β : Type} {p p' q : Paging α} {request : PageRequest α}

/-! ## All calls -/

/-- What holds of a listing when all this has been asked and answered since its start. -/
structure Orderly (total : Option Nat) (xs : List (Exchange α ε)) (p : Paging α) : Prop where
  sameTotal : p.total = total
  /-- The pages fetched are the fetches that succeeded. -/
  fetched : p.pagesFetched = xs.countP Exchange.succeeded
  /-- The items visited are those of the pages that were returned. -/
  visited : p.itemsVisited = (xs.flatMap Exchange.page).length
  /-- No more fetches succeed than the total says. -/
  bounded : ∀ t, total = some t → p.pagesFetched ≤ t
  /-- As long as the listing goes on, each fetch that succeeded has brought an item. -/
  paid : p.exhausted = false → p.pagesFetched ≤ p.itemsVisited
  /-- Once a call has replied that there is no next page, no fetch is made. -/
  ended : xs.Pairwise fun x y => x.reply = some (.ok none) → y.request = none
  /-- Then there is no request any more. -/
  finished : ∀ x ∈ xs, x.reply = some (.ok none) → p.request? = none

theorem orderly_start (mode : PagingMode) (pageSize : Nat) (total : Option Nat) :
    Orderly total ([] : List (Exchange α ε)) (start mode pageSize total) where
  sameTotal := rfl
  fetched := rfl
  visited := rfl
  bounded _ _ := Nat.zero_le _
  paid _ := Nat.le_refl _
  ended := .nil
  finished _ h := by cases h

namespace Orderly

variable {total : Option Nat} {xs : List (Exchange α ε)} {x : Exchange α ε}

/-- A call that asks no fetch, or that may ask one, goes behind the others. -/
theorem ended_append (h : Orderly total xs p) (hx : x.request ≠ none → p.request? ≠ none) :
    (xs ++ [x]).Pairwise fun x y => x.reply = some (.ok none) → y.request = none := by
  refine List.pairwise_append.2 ⟨h.ended, List.pairwise_singleton _ _, ?_⟩
  intro y hy z hz hover
  rw [List.mem_singleton.1 hz]
  cases hasked : x.request with
  | none => rfl
  | some request => exact absurd (h.finished y hy hover) (hx (by simp [hasked]))

/-- Another reply does not end a listing: only the earlier ones do. -/
theorem finished_append {q : Paging α}
    (h : ∀ y ∈ xs, y.reply = some (.ok none) → q.request? = none) (hx : x.reply ≠ some (.ok none)) :
    ∀ y ∈ xs ++ [x], y.reply = some (.ok none) → q.request? = none := by
  intro y hy hover
  rcases List.mem_append.1 hy with hy | hy
  · exact h y hy hover
  · rw [List.mem_singleton.1 hy] at hover
    exact absurd hover hx

/-- While there is a request, no call has replied that there is no next page. -/
theorem not_over (h : Orderly total xs p) (hasked : p.request? = some request) :
    ∀ y ∈ xs, y.reply ≠ some (.ok none) := by
  intro y hy hover
  rw [h.finished y hy hover] at hasked
  cases hasked

/-- A fetch that is made stays below the total. -/
theorem below (h : Orderly total xs p) (hasked : p.request? = some request) :
    ∀ t, total = some t → p.pagesFetched + 1 ≤ t := by
  intro t ht
  have hnot : ¬(p.exhausted = true ∨ p.totalReached = true) := by
    intro hover
    rw [request?_eq_none.2 hover] at hasked
    cases hasked
  obtain ⟨hgoes, hopen⟩ := not_or.1 hnot
  rw [totalReached_of_total (h.sameTotal.trans ht)] at hopen
  have hpaid := h.paid (Bool.eq_false_iff.2 hgoes)
  omega

/-- Every call keeps a listing in order. -/
theorem step (h : Orderly total xs p) {c : PagingCall α ε} (hc : c.Does p p' x) :
    Orderly total (xs ++ [x]) p' := by
  cases hc with
  | finished hover =>
    constructor
    case sameTotal => exact h.sameTotal
    case fetched => simpa [Exchange.succeeded] using h.fetched
    case visited => simpa [Exchange.page] using h.visited
    case bounded => exact h.bounded
    case paid =>
      intro hgoes
      cases hgoes
    case ended => exact h.ended_append fun hasked => absurd rfl hasked
    case finished =>
      intro _ _ _
      exact request?_eq_none.2 (.inl rfl)
  | failed hasked =>
    constructor
    case sameTotal => exact h.sameTotal
    case fetched => simpa [Exchange.succeeded] using h.fetched
    case visited => simpa [Exchange.page] using h.visited
    case bounded => exact h.bounded
    case paid => exact h.paid
    case ended => exact h.ended_append fun _ => by simp [hasked]
    case finished => exact finished_append h.finished (by rintro ⟨⟩)
  | empty hasked =>
    constructor
    case sameTotal => exact h.sameTotal
    case fetched => simpa [Exchange.succeeded] using h.fetched
    case visited => simpa [Exchange.page] using h.visited
    case bounded =>
      -- the last fetch brings no item, but it was made below the total
      exact h.below hasked
    case paid =>
      intro hgoes
      cases hgoes
    case ended => exact h.ended_append fun _ => by simp [hasked]
    case finished =>
      intro _ _ _
      exact request?_eq_none.2 (.inl rfl)
  | @page _ page hasked hnonempty =>
    have hpositive := List.length_pos_iff.2 hnonempty
    constructor
    case sameTotal =>
      rw [total_received]
      exact h.sameTotal
    case fetched => simpa [Exchange.succeeded] using h.fetched
    case visited => simpa [Exchange.page] using h.visited
    case bounded =>
      rw [pagesFetched_received]
      exact h.below hasked
    case paid =>
      intro _
      have hpaid := h.paid (exhausted_of_request? hasked)
      rw [pagesFetched_received, itemsVisited_received]
      omega
    case ended => exact h.ended_append fun _ => by simp [hasked]
    case finished =>
      refine finished_append ?_ (by rintro ⟨⟩)
      intro y hy hover
      exact absurd hover (h.not_over hasked y hy)
  | keep hkept =>
    unfold keep? at hkept
    split at hkept
    · cases hkept
      constructor
      case sameTotal => exact h.sameTotal
      case fetched => simpa [Exchange.succeeded] using h.fetched
      case visited => simpa [Exchange.page] using h.visited
      case bounded => exact h.bounded
      case paid => exact h.paid
      case ended => exact h.ended_append fun hasked => absurd rfl hasked
      case finished =>
        refine finished_append ?_ (by rintro ⟨⟩)
        intro y hy hover
        -- the counter of kept items does not decide whether there is a request
        have hnone := request?_eq_none.1 (h.finished y hy hover)
        exact request?_eq_none.2 hnone
    · cases hkept

/-- Calls keep a listing in order. -/
theorem run (h : Orderly total xs p) {calls : List (PagingCall α ε)} {ys : List (Exchange α ε)}
    (hrun : run? p calls = some (p', ys)) : Orderly total (xs ++ ys) p' := by
  induction calls generalizing p xs ys with
  | nil =>
    cases hrun
    rw [List.append_nil]
    exact h
  | cons c calls ih =>
    obtain ⟨⟨p₁, x⟩, hcall, hrest⟩ := Option.bind_eq_some_iff.1 hrun
    obtain ⟨⟨p₂, ys'⟩, hcalls, heq⟩ := Option.bind_eq_some_iff.1 hrest
    cases heq
    have hstep := h.step (PagingCall.does_of_perform? hcall)
    have hrun := ih hstep hcalls
    rw [List.append_assoc] at hrun
    exact hrun

end Orderly

/-! ## Calls whose fetch fails -/

/-- The listing with its end noticed: a call that finds the total reached marks the listing as
exhausted, and nothing else tells whether it has been made. -/
def settled (p : Paging α) : Paging α := { p with exhausted := p.exhausted || p.totalReached }

theorem request?_settled (p : Paging α) : p.settled.request? = p.request? := by
  have hreached : p.settled.totalReached = p.totalReached := rfl
  unfold request?
  rw [hreached]
  show (if (p.exhausted || p.totalReached) || p.totalReached then _ else _) = _
  rw [Bool.or_assoc, Bool.or_self]
  rfl

theorem settled_settled (p : Paging α) : p.settled.settled = p.settled := by
  have hend : ((p.exhausted || p.totalReached) || p.totalReached) =
      (p.exhausted || p.totalReached) := by
    rw [Bool.or_assoc, Bool.or_self]
  exact congrArg (fun b => { p with exhausted := b }) hend

/-- Before its end there is nothing to notice. -/
theorem settled_of_request? (h : p.request? = some request) : p.settled = p := by
  have hend : (p.exhausted || p.totalReached) = p.exhausted := by
    cases hreached : p.totalReached with
    | false => exact Bool.or_false _
    | true =>
      rw [request?_eq_none.2 (.inr hreached)] at h
      cases h
  exact congrArg (fun b => { p with exhausted := b }) hend

theorem keep?_settled (p : Paging α) (count : Nat) :
    p.settled.keep? count = (p.keep? count).map settled := by
  unfold keep?
  show (if p.kept + count < counterLimit then _ else _) = _
  split <;> rfl

/-- The listing after calls with its end noticed, and what was asked and answered. -/
def outcome (r : Paging α × β) : Paging α × β := (r.1.settled, r.2)

/-- Whether the end was noticed before a call does not matter. -/
theorem perform?_settled (p : Paging α) (c : PagingCall α ε) :
    (c.perform? p.settled).map outcome = (c.perform? p).map outcome := by
  cases c with
  | next answer =>
    cases hrequest : p.request? with
    | none =>
      rw [PagingCall.perform?_over hrequest,
        PagingCall.perform?_over ((request?_settled p).trans hrequest)]
      rfl
    | some request => rw [settled_of_request? hrequest]
  | keep count =>
    show Option.map outcome ((p.settled.keep? count).map _) =
      Option.map outcome ((p.keep? count).map _)
    rw [keep?_settled]
    cases p.keep? count with
    | none => rfl
    | some p' => exact congrArg some (Prod.ext (settled_settled p') rfl)

theorem run?_cons (p : Paging α) (c : PagingCall α ε) (calls : List (PagingCall α ε)) :
    run? p (c :: calls) =
      (c.perform? p).bind fun r => (run? r.1 calls).map fun r' => (r'.1, r.2 :: r'.2) := by
  rw [run?]
  cases c.perform? p with
  | none => rfl
  | some r =>
    obtain ⟨p', x⟩ := r
    show (run? p' calls).bind _ = (run? p' calls).map _
    cases run? p' calls <;> rfl

/-- Whether the end was noticed before calls does not matter. -/
theorem run?_settled (p : Paging α) (calls : List (PagingCall α ε)) :
    (run? p.settled calls).map outcome = (run? p calls).map outcome := by
  induction calls generalizing p with
  | nil => exact congrArg some (Prod.ext (settled_settled p) rfl)
  | cons c calls ih =>
    -- what a call leaves matters only with its end noticed
    have hrest : ∀ p : Paging α, (run? p (c :: calls)).map outcome =
        ((c.perform? p).map outcome).bind fun r =>
          ((run? r.1 calls).map outcome).map fun r' => (r'.1, r.2 :: r'.2) := by
      intro p
      rw [run?_cons]
      cases c.perform? p with
      | none => rfl
      | some r =>
        show _ = Option.map _ ((run? r.1.settled calls).map outcome)
        rw [ih]
        show Option.map outcome (Option.map _ (run? r.1 calls)) = _
        cases run? r.1 calls <;> rfl
    rw [hrest, hrest, perform?_settled]

/-- A call whose fetch fails leaves a listing as it was, up to its noticed end. -/
theorem perform?_fails (p : Paging α) {c : PagingCall α ε} (h : c.fails = true) :
    ∃ p' x, c.perform? p = some (p', x) ∧ p'.settled = p.settled ∧ x.call = c := by
  match c, h with
  | .next (.error e), _ =>
    cases hrequest : p.request? with
    | none =>
      refine ⟨_, _, PagingCall.perform?_over hrequest _, ?_, rfl⟩
      have hend : (p.exhausted || p.totalReached) = true := by
        rcases request?_eq_none.1 hrequest with hover | hreached
        · rw [hover, Bool.true_or]
        · rw [hreached, Bool.or_true]
      exact congrArg (fun b => { p with exhausted := b }) hend.symm
    | some request => exact ⟨_, _, PagingCall.perform?_failed hrequest e, rfl, rfl⟩

theorem call_of_perform? {c : PagingCall α ε} {x : Exchange α ε}
    (h : c.perform? p = some (p', x)) : x.call = c := by
  cases PagingCall.does_of_perform? h <;> rfl

/-- Calls whose fetch fails can be left out: all others ask and answer the same. -/
theorem run?_filter (p : Paging α) (calls : List (PagingCall α ε)) :
    (run? p calls).map (fun r => (r.1.settled, r.2.filter fun x => !x.call.fails)) =
      (run? p (calls.filter fun c => !c.fails)).map outcome := by
  induction calls generalizing p with
  | nil => rfl
  | cons c calls ih =>
    cases hfails : c.fails with
    | true =>
      obtain ⟨p', x, hcall, hsettled, hx⟩ := perform?_fails p hfails
      rw [List.filter_cons_of_neg (by simp [hfails]), ← run?_settled p, ← hsettled, run?_settled,
        ← ih, run?_cons, hcall]
      show Option.map _ (Option.map _ (run? p' calls)) = _
      cases run? p' calls with
      | none => rfl
      | some r => simp [hx, hfails]
    | false =>
      rw [List.filter_cons_of_pos (by simp [hfails]), run?_cons, run?_cons]
      cases hcall : c.perform? p with
      | none => rfl
      | some r =>
        obtain ⟨p', x⟩ := r
        have hx := call_of_perform? hcall
        have hrest := congrArg (Option.map fun r => (r.1, x :: r.2)) (ih p')
        show Option.map _ (Option.map _ (run? p' calls)) =
          Option.map _ (Option.map _ (run? p' (calls.filter fun c => !c.fails)))
        rw [Option.map_map, Option.map_map] at hrest ⊢
        refine Eq.trans ?_ hrest
        cases run? p' calls with
        | none => rfl
        | some r => simp [hx, hfails]

/-! ## The loop over all items -/

variable {fetch : PageRequest α → Action σ ε (List α)} {action : α → Action σ ε Unit}

/-- An action that never fails ends well on all items. -/
theorem forAll_ends (haction : ∀ x s, ∃ s', (action x).run s = (.ok (), s')) (xs : List α) (s : σ) :
    ∃ s', (Action.forAll xs action).run s = (.ok (), s') := by
  induction xs generalizing s with
  | nil => exact ⟨s, rfl⟩
  | cons x xs ih =>
    obtain ⟨s₁, hx⟩ := haction x s
    obtain ⟨s', hxs⟩ := ih s₁
    exact ⟨s', (Action.run_bind_ok hx _).trans hxs⟩

/-- With a total the loop ends, however often the fetch answers and whatever it answers. -/
theorem forEach_ends {total : Nat} (hfetch : ∀ r s, ∃ page s', (fetch r).run s = (.ok page, s'))
    (haction : ∀ x s, ∃ s', (action x).run s = (.ok (), s')) (left : Nat) (p : Paging α)
    (htotal : p.total = some total) (hleft : total ≤ p.itemsVisited + left) (s : σ) :
    ∃ p' s', p'.exhausted = true ∧
      ∀ fetches, left < fetches → (forEach fetch action fetches p).run s = (.ok p', s') := by
  -- what is left of the total decreases with every page
  induction left generalizing p s with
  | zero =>
    have hover : p.request? = none :=
      request?_eq_none.2 (.inr ((totalReached_of_total htotal).2 (by omega)))
    refine ⟨{ p with exhausted := true }, s, rfl, ?_⟩
    intro fetches hfetches
    rw [forEach_over hover hfetches]
    rfl
  | succ left ih =>
    cases hrequest : p.request? with
    | none =>
      refine ⟨{ p with exhausted := true }, s, rfl, ?_⟩
      intro fetches hfetches
      rw [forEach_over hrequest (by omega)]
      rfl
    | some request =>
      obtain ⟨page, s₁, hpage⟩ := hfetch request s
      by_cases hempty : page = []
      · subst hempty
        refine ⟨p.received [], s₁, rfl, ?_⟩
        intro fetches hfetches
        rw [forEach_request hrequest (by omega), Action.run_bind_ok hpage]
        rfl
      · obtain ⟨s₂, hitems⟩ := forAll_ends haction page s₁
        have hpositive := List.length_pos_iff.2 hempty
        have hless : total ≤ (p.received page).itemsVisited + left := by
          rw [itemsVisited_received]
          omega
        obtain ⟨p', s', hover, hends⟩ := ih (p.received page)
          ((total_received p page).trans htotal) hless s₂
        refine ⟨p', s', hover, ?_⟩
        intro fetches hfetches
        rw [forEach_request hrequest (by omega), Action.run_bind_ok hpage,
          if_neg (by simpa using hempty), Action.run_bind_ok hitems]
        exact hends (fetches - 1) (by omega)

/-! ## What the callback has seen -/

/-- Pages that have come in, with all their items handled. -/
def Event.ofPages (pages : List (List α)) : List (Event α ε) :=
  pages.flatMap fun page => .page page :: page.map .handled

/-- What was seen when a loop has ended in this way: each page with all its items in order, and
behind them the failure, either of a fetch or of the callback in the middle of a page. -/
inductive Seen : Except ε β → List (Event α ε) → Prop where
  | all {b : β} (pages : List (List α)) : Seen (.ok b) (Event.ofPages pages)
  | refused {e : ε} (pages : List (List α)) :
      Seen (.error e) (Event.ofPages pages ++ [.refused e])
  | gaveUp {e : ε} (pages : List (List α)) (before : List α) (item : α) (after : List α) :
      Seen (.error e) (Event.ofPages pages ++ .page (before ++ item :: after) ::
        before.map .handled ++ [.gaveUp item e])

/-- A page more in front. -/
theorem Seen.cons {r : Except ε β} {log : List (Event α ε)} (h : Seen r log) (page : List α) :
    Seen r (.page page :: page.map .handled ++ log) := by
  cases h with
  | all pages => exact .all (page :: pages)
  | @refused e pages =>
    have hseen : Seen (.error e : Except ε β) _ := .refused (page :: pages)
    simpa [Event.ofPages] using hseen
  | @gaveUp e pages before item after =>
    have hseen : Seen (.error e : Except ε β) _ := .gaveUp (page :: pages) before item after
    simpa [Event.ofPages] using hseen

/-- Watching does not change what an action does. -/
theorem run_noting {ω : Type} (note : Except ε β → ω) {x : Action σ ε β} {s s' : σ}
    {r : Except ε β} (h : x.run s = (r, s')) (log : List ω) :
    (noting note x).run (s, log) = (r, (s', log ++ [note r])) := by
  unfold Action.run at h
  unfold Action.run noting Action.run
  simp only [h]

theorem run_watched {s s' : σ} {r : Except ε (List α)} (h : (fetch request).run s = (r, s'))
    (log : List (Event α ε)) :
    (watched fetch request).run (s, log) = (r, (s', log ++ [.ofFetch r])) :=
  run_noting Event.ofFetch h log

theorem run_watchedAction {x : α} {s s' : σ} {r : Except ε Unit} (h : (action x).run s = (r, s'))
    (log : List (Event α ε)) :
    (watchedAction action x).run (s, log) = (r, (s', log ++ [.ofItem x r])) :=
  run_noting (Event.ofItem x) h log

/-- The callback on the items of a page, watched. -/
theorem forAll_watched {xs : List α} {s s' : σ} (h : (Action.forAll xs action).run s = (.ok (), s'))
    (log : List (Event α ε)) :
    (Action.forAll xs (watchedAction action)).run (s, log) =
      (.ok (), (s', log ++ xs.map .handled)) := by
  induction xs generalizing s log with
  | nil =>
    cases h
    rw [List.map_nil, List.append_nil]
    rfl
  | cons x xs ih =>
    obtain ⟨_, s₁, hx, hxs⟩ := Action.run_bind_eq_ok.1 h
    refine (Action.run_bind_ok (run_watchedAction hx log) _).trans ((ih hxs _).trans ?_)
    rw [List.append_assoc]
    rfl

theorem forAll_watched_error {before after : List α} {item : α} {s s₁ s' : σ} {e : ε}
    (hbefore : (Action.forAll before action).run s = (.ok (), s₁))
    (hfailed : (action item).run s₁ = (.error e, s')) (log : List (Event α ε)) :
    (Action.forAll (before ++ item :: after) (watchedAction action)).run (s, log) =
      (.error e, (s', log ++ (before.map .handled ++ [.gaveUp item e]))) := by
  rw [Action.forAll_append, Action.run_bind_ok (forAll_watched hbefore log), ← List.append_assoc]
  exact Action.run_bind_error (run_watchedAction hfailed _) _

/-- How the loop goes through a listing, and what is seen of it. It asks for a page, hands the items
of the page to the callback one after the other, and goes on with the listing that has received the
page. It ends when there is no request, when a page is empty, when the fetch or the callback fails, or
when all fetches have been made. -/
inductive Visits (fetch : PageRequest α → Action σ ε (List α)) (action : α → Action σ ε Unit) :
    Nat → Paging α → σ → List (Event α ε) → Except ε (Paging α) → σ → Prop where
  | spent {p : Paging α} {s : σ} : Visits fetch action 0 p s [] (.ok p) s
  | finished {fetches : Nat} {p : Paging α} {s : σ} (silent : p.request? = none) :
      Visits fetch action (fetches + 1) p s [] (.ok { p with exhausted := true }) s
  | refused {fetches : Nat} {p : Paging α} {s s' : σ} {request : PageRequest α} {e : ε}
      (asked : p.request? = some request) (failed : (fetch request).run s = (.error e, s')) :
      Visits fetch action (fetches + 1) p s [.refused e] (.error e) s'
  | empty {fetches : Nat} {p : Paging α} {s s' : σ} {request : PageRequest α}
      (asked : p.request? = some request) (answered : (fetch request).run s = (.ok [], s')) :
      Visits fetch action (fetches + 1) p s [.page []] (.ok (p.received [])) s'
  | gaveUp {fetches : Nat} {p : Paging α} {s s₁ s₂ s' : σ} {request : PageRequest α}
      {before after : List α} {item : α} {e : ε} (asked : p.request? = some request)
      (answered : (fetch request).run s = (.ok (before ++ item :: after), s₁))
      (handled : (Action.forAll before action).run s₁ = (.ok (), s₂))
      (failed : (action item).run s₂ = (.error e, s')) :
      Visits fetch action (fetches + 1) p s
        (.page (before ++ item :: after) :: (before.map .handled ++ [.gaveUp item e])) (.error e) s'
  | page {fetches : Nat} {p : Paging α} {s s₁ s₂ s' : σ} {request : PageRequest α} {page : List α}
      {events : List (Event α ε)} {r : Except ε (Paging α)} (asked : p.request? = some request)
      (answered : (fetch request).run s = (.ok page, s₁)) (nonempty : page ≠ [])
      (handled : (Action.forAll page action).run s₁ = (.ok (), s₂))
      (others : Visits fetch action fetches (p.received page) s₂ events r s') :
      Visits fetch action (fetches + 1) p s (.page page :: (page.map .handled ++ events)) r s'

/-- There is always a way through the listing. -/
theorem exists_visits (fetch : PageRequest α → Action σ ε (List α)) (action : α → Action σ ε Unit)
    (fetches : Nat) (p : Paging α) (s : σ) :
    ∃ events r s', Visits fetch action fetches p s events r s' := by
  induction fetches generalizing p s with
  | zero => exact ⟨_, _, _, .spent⟩
  | succ fetches ih =>
    cases hrequest : p.request? with
    | none => exact ⟨_, _, _, .finished hrequest⟩
    | some request =>
      rcases hfetch : (fetch request).run s with ⟨e | page, s₁⟩
      · exact ⟨_, _, _, .refused hrequest hfetch⟩
      by_cases hempty : page = []
      · subst hempty
        exact ⟨_, _, _, .empty hrequest hfetch⟩
      rcases hitems : (Action.forAll page action).run s₁ with ⟨e | _, s₂⟩
      · obtain ⟨before, item, after, s₃, rfl, hbefore, hfailed⟩ := Action.forAll_eq_error.1 hitems
        exact ⟨_, _, _, .gaveUp hrequest hfetch hbefore hfailed⟩
      · obtain ⟨events, r, s', hothers⟩ := ih (p.received page) s₂
        exact ⟨_, _, _, .page hrequest hfetch hempty hitems hothers⟩

namespace Visits

variable {fetches : Nat} {s s' : σ} {events : List (Event α ε)} {r : Except ε (Paging α)}

/-- It is the way that the loop takes. -/
theorem run (h : Visits fetch action fetches p s events r s') :
    (forEach fetch action fetches p).run s = (r, s') := by
  induction h with
  | spent => rfl
  | finished hsilent =>
    rw [forEach_over hsilent (Nat.succ_pos _)]
    rfl
  | refused hasked hfailed =>
    rw [forEach_request hasked (Nat.succ_pos _)]
    exact Action.run_bind_error hfailed _
  | empty hasked hanswered =>
    rw [forEach_request hasked (Nat.succ_pos _)]
    exact Action.run_bind_ok hanswered _
  | gaveUp hasked hanswered hhandled hfailed =>
    rw [forEach_request hasked (Nat.succ_pos _), Action.run_bind_ok hanswered, if_neg (by simp)]
    exact Action.run_bind_error
      (Action.forAll_eq_error.2 ⟨_, _, _, _, rfl, hhandled, hfailed⟩) _
  | page hasked hanswered hnonempty hhandled _ ih =>
    rw [forEach_request hasked (Nat.succ_pos _), Action.run_bind_ok hanswered,
      if_neg (by simpa using hnonempty)]
    exact (Action.run_bind_ok hhandled _).trans ih

/-- Watching the loop tells what is seen of it. -/
theorem watched_run (h : Visits fetch action fetches p s events r s') (log : List (Event α ε)) :
    (forEach (watched fetch) (watchedAction action) fetches p).run (s, log) =
      (r, (s', log ++ events)) := by
  induction h generalizing log with
  | spent =>
    rw [List.append_nil]
    rfl
  | finished hsilent =>
    rw [forEach_over hsilent (Nat.succ_pos _), List.append_nil]
    rfl
  | refused hasked hfailed =>
    rw [forEach_request hasked (Nat.succ_pos _)]
    exact Action.run_bind_error (run_watched hfailed log) _
  | empty hasked hanswered =>
    rw [forEach_request hasked (Nat.succ_pos _)]
    exact Action.run_bind_ok (run_watched hanswered log) _
  | gaveUp hasked hanswered hhandled hfailed =>
    rw [forEach_request hasked (Nat.succ_pos _), Action.run_bind_ok (run_watched hanswered log),
      if_neg (by simp)]
    refine (Action.run_bind_error (forAll_watched_error hhandled hfailed _) _).trans ?_
    rw [List.append_assoc]
    rfl
  | page hasked hanswered hnonempty hhandled _ ih =>
    rw [forEach_request hasked (Nat.succ_pos _), Action.run_bind_ok (run_watched hanswered log),
      if_neg (by simpa using hnonempty)]
    refine (Action.run_bind_ok (forAll_watched hhandled _) _).trans ((ih _).trans ?_)
    rw [List.append_assoc, List.append_assoc]
    rfl

/-- The callback has seen the items of the pages up to the failure, in order. -/
theorem seen (h : Visits fetch action fetches p s events r s') : Seen r events := by
  induction h with
  | spent => exact .all []
  | finished => exact .all []
  | refused => exact .refused []
  | empty => exact .all [[]]
  | @gaveUp _ _ _ _ _ _ _ before after item e =>
    have hseen : Seen (.error e : Except ε (Paging α)) _ := .gaveUp [] before item after
    simpa [Event.ofPages] using hseen
  | @page _ _ _ _ _ _ _ page _ _ _ _ _ _ _ ih => exact ih.cons page

end Visits

/-! ## Everything at once -/

/-- What holds of a listing whatever its fetch does. -/
structure Safe (α σ ε : Type) (mode : PagingMode) (pageSize : Nat) (total : Option Nat) : Prop where
  /-- The call that changes the listing in place is the one that answers with the next listing. -/
  inPlace : ∀ (fetch : PageRequest α → Action σ ε (List α)) (p : Paging α) (s : σ),
    (pull fetch).run (p, s) = inPlace p ((p.next fetch).run s)
  /-- A fetch that fails leaves the listing as it was. -/
  failed : ∀ (fetch : PageRequest α → Action σ ε (List α)) (p p' : Paging α) (s s' : σ) (e : ε),
    (pull fetch).run (p, s) = (.error e, (p', s')) → p' = p
  /-- The counters and the end of the listing after any calls. -/
  orderly : ∀ (calls : List (PagingCall α ε)) (p : Paging α) (xs : List (Exchange α ε)),
    run? (start mode pageSize total) calls = some (p, xs) → Orderly total xs p
  /-- Calls whose fetch fails may be put in or left out anywhere: what the other calls ask and answer
  is the same. -/
  skipped : ∀ calls calls' : List (PagingCall α ε),
    (calls'.filter fun c => !c.fails) = (calls.filter fun c => !c.fails) →
      ∀ p xs, run? (start mode pageSize total) calls = some (p, xs) →
        ∃ p' xs', run? (start mode pageSize total) calls' = some (p', xs') ∧
          (xs'.filter fun x => !x.call.fails) = (xs.filter fun x => !x.call.fails)
  /-- With a total the loop ends if nothing fails; more fetches than the total says are not made. -/
  ends : ∀ t, total = some t → ∀ (fetch : PageRequest α → Action σ ε (List α))
    (action : α → Action σ ε Unit), (∀ r s, ∃ page s', (fetch r).run s = (.ok page, s')) →
      (∀ x s, ∃ s', (action x).run s = (.ok (), s')) → ∀ s, ∃ p' s', p'.exhausted = true ∧
        ∀ fetches, t < fetches →
          (forEach fetch action fetches (start mode pageSize total)).run s = (.ok p', s')
  /-- Whether the loop ends or fails, the callback has seen the items before that, in order: the loop
  hands over every item of every page that it asks for, and it asks as long as there is a request. -/
  seen : ∀ (fetch : PageRequest α → Action σ ε (List α)) (action : α → Action σ ε Unit)
    (fetches : Nat) (s : σ), ∃ r s' events,
      (forEach fetch action fetches (start mode pageSize total)).run s = (r, s') ∧
      (forEach (watched fetch) (watchedAction action) fetches (start mode pageSize total)).run (s, [])
        = (r, (s', events)) ∧ Seen r events ∧
      Visits fetch action fetches (start mode pageSize total) s events r s'

/-- A failing call leaves the listing as it was. -/
theorem eq_of_pull_error {s s' : σ} {e : ε}
    (h : (pull fetch).run (p, s) = (.error e, (p', s'))) : p' = p := by
  rw [run_pull] at h
  rcases hnext : (p.next fetch).run s with ⟨r, s₁⟩
  rw [hnext] at h
  cases r with
  | ok _ => cases h
  | error _ =>
    cases h
    rfl

/-- **Paging is safe against any fetch.** -/
theorem any_fetch_is_safe (α σ ε : Type) (mode : PagingMode) (pageSize : Nat)
    (total : Option Nat) : Safe α σ ε mode pageSize total where
  inPlace := run_pull
  failed _ _ _ _ _ _ h := eq_of_pull_error h
  orderly _ _ _ hrun := (orderly_start mode pageSize total).run hrun
  skipped calls calls' hsame p xs hrun := by
    -- a call whose fetch fails leaves no trace, so the others tell everything
    have hcalls := run?_filter (start mode pageSize total) calls
    have hcalls' := run?_filter (start mode pageSize total) calls'
    rw [hsame, ← hcalls, hrun] at hcalls'
    obtain ⟨⟨p', xs'⟩, hrun', heq⟩ := Option.map_eq_some_iff.1 hcalls'
    exact ⟨p', xs', hrun', congrArg Prod.snd heq⟩
  ends t ht fetch action hfetch haction s :=
    forEach_ends hfetch haction t _ ht (Nat.le_add_left _ _) s
  seen fetch action fetches s := by
    obtain ⟨events, r, s', hvisits⟩ :=
      exists_visits fetch action fetches (start mode pageSize total) s
    exact ⟨r, s', events, hvisits.run, hvisits.watched_run [], hvisits.seen, hvisits⟩

end Paging
end ProcessMigration
