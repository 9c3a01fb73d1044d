import ProcessMigration.Paging

/-!
# Reasoning about actions

`Action.Triple P x Q R`: started in a state of `P`, the action `x` ends with a value and a state of
`Q`, or it fails in a state of `R`. What holds after a failure matters as much as what holds after a
success, since a failed run leaves its state behind for the next one.

* One rule for each operation on actions, and `Triple.conseq` to weaken a triple;
* `Triple.forAll` is the rule for a list of items: its invariant speaks about the items done;
* `Triple.forPages` is the rule for the paging loop: the loop ends in a state of its invariant in
  which there is no further request;
* `Paging.Reached` says how far a listing with a fixed total has come, with a lemma for each step.
-/

namespace ProcessMigration

namespace Action

variable {σ τ ε ε' α β γ : Type}

theorem run_bind_ok {x : Action σ ε α} {s s' : σ} {a : α} (h : x.run s = (.ok a, s'))
    (f : α → Action σ ε β) : (x >>= f).run s = (f a).run s' := by
  rw [run_bind, h]

theorem run_bind_error {x : Action σ ε α} {s s' : σ} {e : ε} (h : x.run s = (.error e, s'))
    (f : α → Action σ ε β) : (x >>= f).run s = (.error e, s') := by
  rw [run_bind, h]

/-- What one action after the other did that ended well. -/
theorem run_bind_eq_ok {x : Action σ ε α} {f : α → Action σ ε β} {s s' : σ} {b : β} :
    (x >>= f).run s = (.ok b, s') ↔
      ∃ a s₁, x.run s = (.ok a, s₁) ∧ (f a).run s₁ = (.ok b, s') := by
  constructor
  · intro hrun
    rw [run_bind] at hrun
    split at hrun
    · next a s₁ hx => exact ⟨a, s₁, hx, hrun⟩
    · cases hrun
  · rintro ⟨a, s₁, hx, hf⟩
    rw [run_bind_ok hx, hf]

/-- What a list of actions did that has failed: it has come to the action that fails. -/
theorem forAll_eq_error {f : α → Action σ ε Unit} {xs : List α} {s s' : σ} {e : ε} :
    (forAll xs f).run s = (.error e, s') ↔
      ∃ done x rest s₁, xs = done ++ x :: rest ∧ (forAll done f).run s = (.ok (), s₁) ∧
        (f x).run s₁ = (.error e, s') := by
  constructor
  · intro h
    induction xs generalizing s with
    | nil => cases h
    | cons x xs ih =>
      rcases hx : (f x).run s with ⟨r, s₁⟩
      cases r with
      | error e' =>
        have hfailed : (forAll (x :: xs) f).run s = (.error e', s₁) :=
          run_bind_error hx _
        rw [hfailed] at h
        cases h
        exact ⟨[], x, xs, s, rfl, rfl, hx⟩
      | ok u =>
        have hgoes : (forAll (x :: xs) f).run s = (forAll xs f).run s₁ :=
          run_bind_ok hx _
        rw [hgoes] at h
        obtain ⟨done, x', rest, s₂, rfl, hdone, hfailed⟩ := ih h
        exact ⟨x :: done, x', rest, s₂, rfl, (run_bind_ok hx _).trans hdone, hfailed⟩
  · rintro ⟨done, x, rest, s₁, rfl, hdone, hfailed⟩
    induction done generalizing s with
    | nil =>
      cases hdone
      exact run_bind_error hfailed _
    | cons y done ih =>
      obtain ⟨_, s₂, hy, hrest⟩ := run_bind_eq_ok.1 hdone
      exact (run_bind_ok hy _).trans (ih hrest)

theorem map_id_eq (x : Action σ ε α) : id <$> x = x := by
  funext s
  show (x >>= fun a => pure a).run s = x.run s
  rw [run_bind]
  split <;> simp_all

theorem bind_bind (x : Action σ ε α) (f : α → Action σ ε β) (g : β → Action σ ε γ) :
    x >>= f >>= g = x >>= fun a => f a >>= g := by
  funext s
  show (x >>= f >>= g).run s = (x >>= fun a => f a >>= g).run s
  simp only [run_bind]
  rcases x.run s with ⟨r, s'⟩
  cases r <;> rfl

/-- Loops can be unfolded as actions. -/
instance : LawfulMonad (Action σ ε) :=
  LawfulMonad.mk' (Action σ ε) map_id_eq (fun _ _ => rfl) bind_bind

/-- From `P` the action ends well in `Q` or fails in `R`. -/
def Triple (P : σ → Prop) (x : Action σ ε α) (Q : α → σ → Prop) (R : σ → Prop) : Prop :=
  ∀ s, P s → match x.run s with
    | (.ok a, s') => Q a s'
    | (.error _, s') => R s'

namespace Triple

variable {P P' : σ → Prop} {Q Q' : α → σ → Prop} {R R' : σ → Prop} {x : Action σ ε α}

theorem conseq (h : Triple P x Q R) (hP : ∀ s, P' s → P s) (hQ : ∀ a s, Q a s → Q' a s)
    (hR : ∀ s, R s → R' s) : Triple P' x Q' R' := by
  intro s hs
  have hx := h s (hP s hs)
  split at hx
  · exact hQ _ _ hx
  · exact hR _ hx

/-- A stronger precondition. -/
theorem pre (h : Triple P x Q R) (hP : ∀ s, P' s → P s) : Triple P' x Q R :=
  h.conseq hP (fun _ _ hq => hq) fun _ hr => hr

/-- Weaker endings, of the runs that succeed and of those that fail. -/
theorem ends (h : Triple P x Q R) (hQ : ∀ a s, Q a s → Q' a s) (hR : ∀ s, R s → R' s) :
    Triple P x Q' R' :=
  h.conseq (fun _ hp => hp) hQ hR

/-- A weaker postcondition. -/
theorem post (h : Triple P x Q R) (hQ : ∀ a s, Q a s → Q' a s) : Triple P x Q' R :=
  h.ends hQ fun _ hr => hr

/-- An action that cannot fail leaves nothing behind when it fails. -/
theorem succeeds (h : Triple P x Q fun _ => False) : Triple P x Q R :=
  h.ends (fun _ _ hq => hq) fun _ hr => hr.elim

/-- Nothing is asked of what a failure leaves behind. -/
theorem orFails (h : Triple P x Q R) : Triple P x Q fun _ => True :=
  h.ends (fun _ _ hq => hq) fun _ _ => trivial

/-- Two things that an action does at once. -/
theorem and {P₁ P₂ R₁ R₂ : σ → Prop} {Q₁ Q₂ : α → σ → Prop} (h₁ : Triple P₁ x Q₁ R₁)
    (h₂ : Triple P₂ x Q₂ R₂) :
    Triple (fun s => P₁ s ∧ P₂ s) x (fun a s => Q₁ a s ∧ Q₂ a s) fun s => R₁ s ∧ R₂ s := by
  intro s ⟨hs₁, hs₂⟩
  have h₁ := h₁ s hs₁
  have h₂ := h₂ s hs₂
  rcases hrun : x.run s with ⟨r, s'⟩
  rw [hrun] at h₁ h₂
  cases r with
  | ok a => exact ⟨h₁, h₂⟩
  | error e => exact ⟨h₁, h₂⟩

/-- What holds of every state holds at the end. -/
theorem any (hQ : ∀ a s, Q a s) (hR : ∀ s, R s) : Triple P x Q R := by
  intro s hs
  split
  · exact hQ _ _
  · exact hR _

/-- What an action leads to in any case holds of the state it leaves. -/
theorem state (h : Triple P x (fun _ => R) R) {s : σ} (hs : P s) : R (x.run s).2 := by
  have hx := h s hs
  split at hx
  · next hrun => exact hrun ▸ hx
  · next hrun => exact hrun ▸ hx

/-- What an action does when it ends with a value. -/
theorem ok (h : Triple P x Q R) {s : σ} (hs : P s) {a : α} (hrun : (x.run s).1 = .ok a) :
    Q a (x.run s).2 := by
  have hx := h s hs
  rcases hr : x.run s with ⟨r, s'⟩
  rw [hr] at hx hrun
  simp only at hrun
  subst hrun
  exact hx

/-- What an action does, together with the fact that it is this action that did it. -/
theorem runs (h : Triple P x Q R) {s₀ : σ} (hs₀ : P s₀) :
    Triple (fun s => s = s₀) x (fun a s => x.run s₀ = (.ok a, s) ∧ Q a s) R := by
  intro s hs
  subst hs
  have hx := h s hs₀
  rcases hrun : x.run s with ⟨r, s'⟩
  rw [hrun] at hx
  cases r with
  | ok a => exact ⟨rfl, hx⟩
  | error e => exact hx

/-- To prove a triple, one may fix the state it starts in. -/
theorem of_state (h : ∀ s₀, P s₀ → Triple (fun s => s = s₀) x Q R) : Triple P x Q R :=
  fun s hs => h s hs s rfl

theorem pure {a : α} (h : ∀ s, P s → Q a s) : Triple P (Pure.pure a : Action σ ε α) Q R :=
  fun s hs => h s hs

theorem fail {e : ε} (h : ∀ s, P s → R s) : Triple P (Action.fail e : Action σ ε α) Q R :=
  fun s hs => h s hs

theorem get {Q : σ → σ → Prop} (h : ∀ s, P s → Q s s) :
    Triple P (Action.get : Action σ ε σ) Q R :=
  fun s hs => h s hs

theorem modify {f : σ → σ} {Q : Unit → σ → Prop} (h : ∀ s, P s → Q () (f s)) :
    Triple P (Action.modify f : Action σ ε Unit) Q R :=
  fun s hs => h s hs

theorem ofExcept {r : Except ε α} (hok : ∀ a s, r = .ok a → P s → Q a s)
    (herr : ∀ s, P s → R s) : Triple P (Action.ofExcept r) Q R := by
  intro s hs
  cases r with
  | ok a => exact hok a s rfl hs
  | error e => exact herr s hs

theorem bind {f : α → Action σ ε β} {M : α → σ → Prop} {Q : β → σ → Prop}
    (hx : Triple P x M R) (hf : ∀ a, Triple (M a) (f a) Q R) : Triple P (x >>= f) Q R := by
  intro s hs
  have h := hx s hs
  rw [Action.run_bind]
  rcases hrun : x.run s with ⟨r, s'⟩
  rw [hrun] at h
  cases r with
  | ok a => exact hf a s' h
  | error e => exact h

/-- What the precondition says of the answer before may be fixed. -/
theorem of_exists {ι : Type} {P : ι → σ → Prop} (h : ∀ i, Triple (P i) x Q R) :
    Triple (fun s => ∃ i, P i s) x Q R := by
  intro s hs
  rcases hs with ⟨i, hs⟩
  exact h i s hs

/-- What the precondition says apart from the state may be assumed. -/
theorem of_and {p : Prop} (h : p → Triple P x Q R) : Triple (fun s => p ∧ P s) x Q R := by
  intro s hs
  exact h hs.1 s hs.2

/-- The rule for an action whose answer is known. -/
theorem bind_eq {f : α → Action σ ε β} {a : α} {M : σ → Prop} {Q : β → σ → Prop}
    (hx : Triple P x (fun b s => b = a ∧ M s) R) (hf : Triple M (f a) Q R) :
    Triple P (x >>= f) Q R := by
  refine bind hx ?_
  intro b s hs
  obtain ⟨rfl, hs⟩ := hs
  exact hf s hs

/-- Where the state is known, so is what is got of it. -/
theorem get_bind {s₀ : σ} {f : σ → Action σ ε β} {Q : β → σ → Prop}
    (h : Triple (fun s => s = s₀) (f s₀) Q R) :
    Triple (fun s => s = s₀) (Action.get >>= f) Q R :=
  bind_eq (get fun _ hs => ⟨hs, hs⟩) h

theorem mapError {f : ε → ε'} (h : Triple P x Q R) : Triple P (x.mapError f) Q R := by
  intro s hs
  have hx := h s hs
  unfold Action.run Action.mapError at *
  split at hx <;> simp_all

/-- An action on a part: what is around the part stays. -/
theorem onPart {part : τ → σ} {put : σ → τ → τ} {P : τ → Prop} {Q : α → τ → Prop} {R : τ → Prop}
    (h : ∀ t, P t → Triple (fun s => s = part t) x (fun a s => Q a (put s t)) fun s => R (put s t)) :
    Triple P (x.onPart part put) Q R := by
  intro t ht
  have hx := h t ht (part t) rfl
  unfold Action.run Action.onPart at *
  split at hx <;> simp_all

/-- The items of a list, one after the other; the invariant speaks about the items done so far. -/
theorem forAll {xs : List α} {f : α → Action σ ε Unit} {I : List α → σ → Prop}
    (h : ∀ done x rest, xs = done ++ x :: rest →
      Triple (I done) (f x) (fun _ => I (done ++ [x])) R) :
    Triple (I []) (Action.forAll xs f) (fun _ => I xs) R := by
  suffices hgen : ∀ rest done, xs = done ++ rest →
      Triple (I done) (Action.forAll rest f) (fun _ => I xs) R from hgen xs [] rfl
  intro rest
  induction rest with
  | nil =>
    intro done hxs
    rw [List.append_nil] at hxs
    exact Triple.pure fun s hs => hxs ▸ hs
  | cons x rest ih =>
    intro done hxs
    refine Triple.bind (h done x rest hxs) ?_
    intro _
    exact ih (done ++ [x]) (by simpa using hxs)

/-- The items of a list where each keeps the same invariant. -/
theorem forAll_keeps {xs : List α} {f : α → Action σ ε Unit} {I : σ → Prop}
    (h : ∀ x ∈ xs, Triple I (f x) (fun _ => I) R) :
    Triple I (Action.forAll xs f) (fun _ => I) R :=
  forAll (I := fun _ => I) fun done x rest hxs => h x (by simp [hxs])

end Triple
end Action

/-! ## The paging loop -/

namespace Paging

variable {σ ε α : Type}

theorem request?_eq_none {p : Paging α} :
    p.request? = none ↔ p.exhausted = true ∨ p.totalReached = true := by
  unfold request?
  by_cases h : p.exhausted <;> by_cases h' : p.totalReached <;> simp [h, h']

theorem totalReached_of_total {p : Paging α} {total : Nat} (h : p.total = some total) :
    p.totalReached = true ↔ total ≤ p.itemsVisited := by
  simp [totalReached, h]

@[simp] theorem total_received (p : Paging α) (page : List α) :
    (p.received page).total = p.total := by
  unfold received
  split <;> rfl

@[simp] theorem itemsVisited_received (p : Paging α) (page : List α) :
    (p.received page).itemsVisited = p.itemsVisited + page.length := by
  unfold received
  split
  · next h => simp [List.isEmpty_iff.1 h]
  · rfl

/-- The number of fetches left suffices to reach the total. -/
def Fueled (fetches : Nat) (p : Paging α) : Prop :=
  ∃ total, p.total = some total ∧ total < p.itemsVisited + fetches

theorem fueled_start (mode : PagingMode) (pageSize total : Nat) :
    Fueled (enough total) (start mode pageSize (some total) : Paging α) :=
  ⟨total, rfl, by simp [start, enough]⟩

/-- How far a listing has come whose total is fixed. -/
structure Reached (mode : PagingMode) (pageSize total kept visited : Nat) (p : Paging α) :
    Prop where
  mode : p.mode = mode
  size : p.pageSize = max pageSize 1
  total : p.total = some total
  kept : p.kept = kept
  visited : p.itemsVisited = visited

theorem reached_start (mode : PagingMode) (pageSize total : Nat) :
    Reached mode pageSize total 0 0 (start mode pageSize (some total) : Paging α) :=
  ⟨rfl, rfl, rfl, rfl, rfl⟩

namespace Reached

variable {mode : PagingMode} {pageSize total kept visited : Nat} {p : Paging α}

theorem keepOne (h : Reached mode pageSize total kept visited p) :
    Reached mode pageSize total (kept + 1) visited p.keepOne :=
  ⟨h.mode, h.size, h.total, congrArg (· + 1) h.kept, h.visited⟩

theorem received_nil (h : Reached mode pageSize total kept visited p) :
    Reached mode pageSize total kept visited (p.received []) :=
  ⟨h.mode, h.size, h.total, h.kept, h.visited⟩

/-- A page that comes in is visited; unless the pages follow their last items, it does not end the
listing. -/
theorem received (h : Reached mode pageSize total kept visited p) (hmode : mode ≠ .after)
    {page : List α} (hpage : page ≠ []) :
    Reached mode pageSize total kept (visited + page.length) (p.received page) ∧
      (p.received page).exhausted = false := by
  obtain ⟨rfl, hsize, htotal, hkept, hvisited⟩ := h
  unfold Paging.received
  rw [if_neg (by simpa using hpage)]
  exact ⟨⟨rfl, hsize, htotal, hkept, congrArg (· + page.length) hvisited⟩, by simp [hmode]⟩

theorem limit_eq (h : Reached mode pageSize total kept visited p) {request : PageRequest α}
    (hrequest : p.request? = some request) : request.limit = max pageSize 1 := by
  unfold request? at hrequest
  split at hrequest
  · cases hrequest
  · cases hrequest
    exact h.size

/-- The offset passes over what was kept, or over all that was visited. -/
theorem offset_eq (h : Reached mode pageSize total kept visited p) {request : PageRequest α}
    (hrequest : p.request? = some request) :
    (mode = .pinned → request.offset = kept) ∧ (mode = .offset → request.offset = visited) := by
  unfold request? at hrequest
  split at hrequest
  · cases hrequest
  · cases hrequest
    constructor
    · rintro rfl
      rw [h.mode]
      exact h.kept
    · rintro rfl
      rw [h.mode]
      exact h.visited

/-- When no page is asked for any more, no item is left. -/
theorem nothing_left {β : Type} {rest : List β} (h : Reached mode pageSize total kept visited p)
    (htotal : total = visited + rest.length) (hexhausted : p.exhausted = true → rest = [])
    (hnone : p.request? = none) : rest = [] := by
  rcases request?_eq_none.1 hnone with hover | hreached
  · exact hexhausted hover
  · have hle := (totalReached_of_total h.total).1 hreached
    rw [h.visited] at hle
    exact List.length_eq_zero_iff.1 (by omega)

end Reached

section

variable {p : Paging α} {request : PageRequest α} {fetch : PageRequest α → Action σ ε (List α)}
  {body : Paging α → List α → Action σ ε (Paging α)}

/-- No fetch is made when there is no request. -/
theorem next_over (h : p.request? = none) :
    p.next fetch = pure (none, { p with exhausted := true }) := by
  unfold next
  rw [h]

theorem next_request (h : p.request? = some request) :
    p.next fetch = (do
      let page ← fetch request
      pure (if page.isEmpty then none else some page, p.received page)) := by
  unfold next
  rw [h]

/-- Without a request the loop is at its end. -/
theorem forPages_over (h : p.request? = none) {fetches : Nat} (hfetches : 0 < fetches) :
    forPages fetch body fetches p = pure { p with exhausted := true } := by
  cases fetches with
  | zero => exact absurd hfetches (Nat.lt_irrefl 0)
  | succ fetches =>
    unfold forPages
    rw [next_over h, pure_bind]

/-- One fetch, and the other rounds with one fetch less. -/
theorem forPages_request (h : p.request? = some request) {fetches : Nat}
    (hfetches : 0 < fetches) :
    forPages fetch body fetches p = (do
      let page ← fetch request
      if page.isEmpty then pure (p.received page)
      else
        let p ← body (p.received page) page
        forPages fetch body (fetches - 1) p) := by
  cases fetches with
  | zero => exact absurd hfetches (Nat.lt_irrefl 0)
  | succ fetches =>
    rw [forPages, next_request h, bind_assoc]
    congr 1
    funext page
    cases page <;> rfl

end

/-- The loop fails where its first fetch does. -/
theorem forPages_error {fetch : PageRequest α → Action σ ε (List α)}
    {body : Paging α → List α → Action σ ε (Paging α)} {p : Paging α} {request : PageRequest α}
    (hrequest : p.request? = some request) {s s' : σ} {e : ε}
    (hfetch : (fetch request).run s = (.error e, s')) (fetches : Nat) :
    (forPages fetch body (fetches + 1) p).run s = (.error e, s') := by
  unfold forPages next
  rw [hrequest]
  exact Action.run_bind_error (Action.run_bind_error hfetch _) _

end Paging

namespace Action.Triple

variable {σ ε α : Type} {R : σ → Prop}
  {fetch : PageRequest α → Action σ ε (List α)}
  {body : Paging α → List α → Action σ ε (Paging α)}

/-- One round of the paging loop. `M` holds when a page that holds something has come in, and `Q` at
the end. -/
theorem forPages_succ {P : σ → Prop} {M : List α → σ → Prop} {Q : Paging α → σ → Prop}
    {fetches : Nat} {p : Paging α}
    (hover : p.request? = none → ∀ s, P s → Q { p with exhausted := true } s)
    (hfetch : ∀ request, p.request? = some request →
      Triple P (fetch request) (fun page s => if page = [] then Q (p.received []) s else M page s) R)
    (hrest : ∀ page, page ≠ [] →
      Triple (M page) (body (p.received page) page >>= Paging.forPages fetch body fetches) Q R) :
    Triple P (Paging.forPages fetch body (fetches + 1) p) Q R := by
  cases hrequest : p.request? with
  | none =>
    rw [Paging.forPages_over hrequest (Nat.succ_pos fetches)]
    exact Triple.pure (hover hrequest)
  | some request =>
    rw [Paging.forPages_request hrequest (Nat.succ_pos fetches)]
    refine Triple.bind (hfetch request hrequest) ?_
    intro page
    by_cases hpage : page = []
    · rw [if_pos (List.isEmpty_iff.2 hpage), hpage]
      exact Triple.pure fun s hs => by rwa [if_pos rfl] at hs
    · rw [if_neg (mt List.isEmpty_iff.1 hpage)]
      exact (hrest page hpage).pre fun s hs => by rwa [if_neg hpage] at hs

/-- The paging loop. `I` holds whenever the next page is to be fetched, `M` when a page that holds
something has come in. The loop ends in a state of `I` in which there is no further request, and
answers with a paging that has visited as much. -/
theorem forPages_visited {I : Paging α → σ → Prop} {M : Paging α → List α → σ → Prop}
    (hfetch : ∀ p request, p.request? = some request →
      Triple (I p) (fetch request)
        (fun page s => if page = [] then I (p.received []) s else M (p.received page) page s) R)
    (hbody : ∀ p page, Triple (M p page) (body p page)
      (fun p' s => I p' s ∧ p'.total = p.total ∧ p'.itemsVisited = p.itemsVisited) R) :
    ∀ fetches p, Paging.Fueled fetches p →
      Triple (I p) (Paging.forPages fetch body fetches p)
        (fun p' s => ∃ p₀ : Paging α, I p₀ s ∧ p₀.request? = none ∧
          p'.itemsVisited = p₀.itemsVisited) R := by
  intro fetches
  induction fetches with
  | zero =>
    intro p ⟨total, htotal, hlt⟩
    -- no fetch is left, so the total has been reached
    have hreached : p.totalReached = true := (Paging.totalReached_of_total htotal).2 (by omega)
    exact Triple.pure fun s hs => ⟨p, hs, Paging.request?_eq_none.2 (.inr hreached), rfl⟩
  | succ fetches ih =>
    intro p ⟨total, htotal, hlt⟩
    refine forPages_succ (M := fun page => M (p.received page) page) ?_ ?_ ?_
    · intro hnone s hs
      exact ⟨p, hs, hnone, rfl⟩
    · intro request hrequest
      refine (hfetch p request hrequest).post ?_
      intro page s hs
      by_cases hpage : page = []
      · rw [if_pos hpage] at hs ⊢
        exact ⟨p.received [], hs, Paging.request?_eq_none.2 (.inl rfl), rfl⟩
      · rw [if_neg hpage] at hs ⊢
        exact hs
    · intro page hpage
      refine Triple.bind (hbody (p.received page) page) ?_
      intro p'
      refine Triple.of_state ?_
      rintro s ⟨hI, htot, hvis⟩
      have hpos : 0 < page.length := List.length_pos_iff.2 hpage
      have hfuel : Paging.Fueled fetches p' := by
        refine ⟨total, by simp [htot, htotal], ?_⟩
        simp only [hvis, Paging.itemsVisited_received]
        omega
      exact (ih p' hfuel).pre fun s' h => h ▸ hI

/-- The paging loop, whatever it answers with. -/
theorem forPages {I : Paging α → σ → Prop} {M : Paging α → List α → σ → Prop}
    (hfetch : ∀ p request, p.request? = some request →
      Triple (I p) (fetch request)
        (fun page s => if page = [] then I (p.received []) s else M (p.received page) page s) R)
    (hbody : ∀ p page, Triple (M p page) (body p page)
      (fun p' s => I p' s ∧ p'.total = p.total ∧ p'.itemsVisited = p.itemsVisited) R)
    (fetches : Nat) (p : Paging α) (hp : Paging.Fueled fetches p) :
    Triple (I p) (Paging.forPages fetch body fetches p)
      (fun _ s => ∃ p₀ : Paging α, I p₀ s ∧ p₀.request? = none) R :=
  (forPages_visited hfetch hbody fetches p hp).post fun _ _ ⟨p₀, hI, hnone, _⟩ => ⟨p₀, hI, hnone⟩

/-- The paging loop where the invariant does not speak about the paging. `M` holds when a page has
come in. -/
theorem forPages_pages {I : σ → Prop} {M : List α → σ → Prop}
    (hfetch : ∀ request, Triple I (fetch request) M R) (hempty : ∀ s, M [] s → I s)
    (hbody : ∀ p page, Triple (M page) (body p page) (fun _ => I) R) (fetches : Nat)
    (p : Paging α) : Triple I (Paging.forPages fetch body fetches p) (fun _ => I) R := by
  induction fetches generalizing p with
  | zero => exact Triple.pure fun s hs => hs
  | succ fetches ih =>
    refine forPages_succ (M := M) ?_ ?_ ?_
    · intro _ s hs
      exact hs
    · intro request _
      refine (hfetch request).post ?_
      intro page s hs
      by_cases hpage : page = []
      · rw [if_pos hpage]
        exact hempty s (hpage ▸ hs)
      · rw [if_neg hpage]
        exact hs
    · intro page _
      exact Triple.bind (hbody (p.received page) page) ih

/-- The paging loop where fetch and body keep the same invariant. -/
theorem forPages_keeps {I : σ → Prop} (hfetch : ∀ request, Triple I (fetch request) (fun _ => I) R)
    (hbody : ∀ p page, Triple I (body p page) (fun _ => I) R) (fetches : Nat) (p : Paging α) :
    Triple I (Paging.forPages fetch body fetches p) (fun _ => I) R :=
  forPages_pages (M := fun _ => I) hfetch (fun _ hs => hs) hbody fetches p

end Action.Triple
end ProcessMigration
