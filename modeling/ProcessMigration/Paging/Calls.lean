import ProcessMigration.Paging

/-!
# A listing in the hands of its caller

The caller of a listing asks for the next page and reports what it keeps, in any order, and the
listing changes in place: what a call has written stays, also when its fetch fails.

* `Paging.pull` is the call for the next page, with its writes one after the other;
* `PagingCall` is a call together with what the fetch answers in case it is asked;
* `Paging.run?` makes calls in order and tells of each what the fetch was asked and what the call
  replied;
* `Paging.watched` and `Paging.watchedAction` note what happens while a loop goes through a listing.
-/

namespace ProcessMigration

namespace Paging

variable {α β σ ε : Type}

/-! ## The next page, in place -/

/-- Changes the listing. -/
def change (f : Paging α → Paging α) : Action (Paging α × σ) ε Unit :=
  Action.modify fun t => (f t.1, t.2)

/-- Takes in what the fetch has answered, and replies with the page unless it is empty. -/
def receive (page : List α) : Action (Paging α × σ) ε (Option (List α)) := do
  change fun p => { p with pagesFetched := p.pagesFetched + 1 }
  let (p, _) ← Action.get
  if page.isEmpty then
    change fun p => { p with exhausted := true }
    return none
  else
    if p.mode = .after then
      if page.length < p.pageSize then change fun p => { p with exhausted := true }
      change fun p => { p with last := page.getLast? }
    change fun p => { p with itemsVisited := p.itemsVisited + page.length }
    return some page

/-- The next page, or nothing when the listing is over. -/
def pull (fetch : PageRequest α → Action σ ε (List α)) :
    Action (Paging α × σ) ε (Option (List α)) := do
  let (p, _) ← Action.get
  match p.request? with
  | none =>
    change fun p => { p with exhausted := true }
    return none
  | some request =>
    let page ← (fetch request).onPart Prod.snd fun s t => (t.1, s)
    receive page

end Paging

/-! ## Calls -/

/-- A call of the caller. A call for the next page comes with what the fetch answers if it is
asked. -/
inductive PagingCall (α ε : Type) where
  | next (answer : Except ε (List α))
  | keep (count : Nat)

/-- What came of a call. -/
structure Exchange (α ε : Type) where
  call : PagingCall α ε
  /-- What the fetch was asked, if it was. -/
  request : Option (PageRequest α)
  /-- What a call for the next page replied. -/
  reply : Option (Except ε (Option (List α)))

variable {α β σ ε : Type}

/-- The fetch of this call fails if it is asked. -/
def PagingCall.fails : PagingCall α ε → Bool
  | next (.error _) => true
  | _ => false

/-- The fetch was asked and has answered with a page. -/
def Exchange.succeeded (x : Exchange α ε) : Bool :=
  match x.request, x.reply with
  | some _, some (.ok _) => true
  | _, _ => false

/-- The page that the call replied, with no item if it replied none. -/
def Exchange.page (x : Exchange α ε) : List α :=
  match x.reply with
  | some (.ok (some page)) => page
  | _ => []

/-- A fetch that notes what it is asked. -/
def PagingCall.fetch (answer : Except ε (List α)) (request : PageRequest α) :
    Action (Option (PageRequest α)) ε (List α) := do
  Action.modify fun _ => some request
  Action.ofExcept answer

/-- Makes a call, unless it overflows a counter. -/
def PagingCall.perform? (p : Paging α) (c : PagingCall α ε) :
    Option (Paging α × Exchange α ε) :=
  match c with
  | next answer =>
    match (Paging.pull (PagingCall.fetch answer)).run (p, none) with
    | (reply, (p, request)) => some (p, ⟨c, request, some reply⟩)
  | keep count => (p.keep? count).map fun p => (p, ⟨c, none, none⟩)

namespace Paging

/-- Makes calls one after the other. -/
def run? (p : Paging α) : List (PagingCall α ε) → Option (Paging α × List (Exchange α ε))
  | [] => some (p, [])
  | c :: calls => do
    let (p, x) ← c.perform? p
    let (p, xs) ← run? p calls
    return (p, x :: xs)

/-! ## Watching a loop -/

/-- What happens while a loop goes through a listing. -/
inductive Event (α ε : Type) where
  | page (items : List α)
  | refused (e : ε)
  | handled (item : α)
  | gaveUp (item : α) (e : ε)

/-- How a fetch has ended. -/
def Event.ofFetch : Except ε (List α) → Event α ε
  | .ok items => .page items
  | .error e => .refused e

/-- How the action on an item has ended. -/
def Event.ofItem (item : α) : Except ε Unit → Event α ε
  | .ok _ => .handled item
  | .error e => .gaveUp item e

/-- Notes how an action ends. -/
def noting {ω : Type} (note : Except ε β → ω) (x : Action σ ε β) :
    Action (σ × List ω) ε β := fun t =>
  match x.run t.1 with
  | (r, s) => (r, (s, t.2 ++ [note r]))

/-- A fetch that is watched. -/
def watched (fetch : PageRequest α → Action σ ε (List α)) (request : PageRequest α) :
    Action (σ × List (Event α ε)) ε (List α) := noting Event.ofFetch (fetch request)

/-- An action on items that is watched. -/
def watchedAction (action : α → Action σ ε Unit) (item : α) :
    Action (σ × List (Event α ε)) ε Unit := noting (Event.ofItem item) (action item)

end Paging
end ProcessMigration
