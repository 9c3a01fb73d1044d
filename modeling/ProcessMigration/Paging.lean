import ProcessMigration.Action

/-!
# Paging

A listing that is too long for one answer is fetched page by page. A `Paging` decides what to ask
for next and when to stop; the fetch itself is any function of the request.

* In mode `offset` the next page starts after the items visited; in mode `pinned` after the items
  that the caller has **kept** in a set it shrinks while it iterates; in mode `after` behind the last
  item of the page before.
* `next` makes one fetch at most. A failing fetch leaves the state as it was.
* The listing is over after an empty page, once the visited items reach a total fixed at the start,
  and in mode `after` when a page is short.
* `forPages` goes through the pages, `forEach` through their items; `collect` gathers them.
-/

namespace ProcessMigration

/-- How successive pages are asked for. -/
inductive PagingMode where
  | offset
  | pinned
  | after
  deriving DecidableEq, Repr

namespace PagingMode

/-- The name of a mode. -/
def name : PagingMode → String
  | .offset => "offset"
  | .pinned => "pinned"
  | .after => "after"

/-- The mode of a name. -/
def ofName? (s : String) : Option PagingMode :=
  [offset, pinned, after].find? fun m => m.name == s

end PagingMode

/-- One request for a page. -/
structure PageRequest (α : Type) where
  offset : Nat
  limit : Nat
  after : Option α
  deriving DecidableEq, Repr

/-- The page that an ordered list answers a request with: of its items behind `after`, those that
follow the first `offset`, `limit` of them at most. -/
def PageRequest.pageOf {α : Type} [LT α] [DecidableLT α] (r : PageRequest α) (items : List α) :
    List α :=
  let later := match r.after with
    | some a => items.filter fun i => a < i
    | none => items
  (later.drop r.offset).take r.limit

/-- The state of a listing. -/
structure Paging (α : Type) where
  mode : PagingMode
  pageSize : Nat
  total : Option Nat
  last : Option α
  kept : Nat
  exhausted : Bool
  pagesFetched : Nat
  itemsVisited : Nat
  deriving DecidableEq, Repr

namespace Paging

variable {α σ ε : Type}

/-- A listing at its start. Pages hold at least one item. -/
def start (mode : PagingMode) (pageSize : Nat) (total : Option Nat) : Paging α where
  mode := mode
  pageSize := max pageSize 1
  total := total
  last := none
  kept := 0
  exhausted := false
  pagesFetched := 0
  itemsVisited := 0

/-- The first number that a counter of 64 bits cannot hold. -/
def counterLimit : Nat := 0x10000000000000000

/-- Records items that stay in the set, unless the counter cannot hold them. -/
def keep? (p : Paging α) (count : Nat) : Option (Paging α) :=
  if p.kept + count < counterLimit then some { p with kept := p.kept + count } else none

/-- Records one item that stays in the set. -/
def keepOne (p : Paging α) : Paging α := { p with kept := p.kept + 1 }

/-- The visited items have reached the total. -/
def totalReached (p : Paging α) : Bool :=
  match p.total with
  | some total => total ≤ p.itemsVisited
  | none => false

/-- The next request, if there is to be one. -/
def request? (p : Paging α) : Option (PageRequest α) :=
  if p.exhausted || p.totalReached then none
  else some {
    offset := match p.mode with
      | .offset => p.itemsVisited
      | .pinned => p.kept
      | .after => 0
    limit := p.pageSize
    after := match p.mode with
      | .after => p.last
      | _ => none }

/-- The state after a page has come in. -/
def received (p : Paging α) (page : List α) : Paging α :=
  if page.isEmpty then { p with pagesFetched := p.pagesFetched + 1, exhausted := true }
  else {
    p with
    pagesFetched := p.pagesFetched + 1
    itemsVisited := p.itemsVisited + page.length
    exhausted := p.mode = .after && page.length < p.pageSize
    last := if p.mode = .after then page.getLast? else p.last }

/-- The next page, or nothing when the listing is over, and the state after it. -/
def next (p : Paging α) (fetch : PageRequest α → Action σ ε (List α)) :
    Action σ ε (Option (List α) × Paging α) :=
  match p.request? with
  | none => pure (none, { p with exhausted := true })
  | some request => do
    let page ← fetch request
    return (if page.isEmpty then none else some page, p.received page)

/-- Fetches pages until the listing is over, at most `fetches` of them, and does something with
each; the body may change the state of the listing. Answers the last state. -/
def forPages (fetch : PageRequest α → Action σ ε (List α))
    (body : Paging α → List α → Action σ ε (Paging α)) :
    Nat → Paging α → Action σ ε (Paging α)
  | 0, p => pure p
  | fetches + 1, p => do
    match ← p.next fetch with
    | (none, p) => return p
    | (some page, p) => forPages fetch body fetches (← body p page)

/-- Hands every item of every page to an action. -/
def forEach (fetch : PageRequest α → Action σ ε (List α)) (action : α → Action σ ε Unit) :
    Nat → Paging α → Action σ ε (Paging α) :=
  forPages fetch fun p page => do
    Action.forAll page action
    return p

/-- All items of the listing, in the order of the pages. -/
def collect (fetch : PageRequest α → Action σ ε (List α)) :
    Nat → Paging α → Action σ ε (List α)
  | 0, _ => pure []
  | fetches + 1, p => do
    match ← p.next fetch with
    | (none, _) => return []
    | (some page, p) => return page ++ (← collect fetch fetches p)

/-- How many fetches there can be when the total is fixed: each but the last visits an item. -/
def enough (total : Nat) : Nat := total + 1

end Paging
end ProcessMigration
