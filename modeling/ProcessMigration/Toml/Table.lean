import ProcessMigration.Json.Basic

/-!
# Tables of a configuration

Keys and headings build up a tree of tables. A table is

* **explicit** once a heading or an inline table names it,
* **implied** while only headings of tables inside it have been seen,
* **dotted** when a path of keys made it.

No table is defined twice: a heading makes an implied table explicit and refuses every other one, a
path of keys goes through dotted tables only, and what has a value of its own is never extended.
A heading in double brackets adds an element to an array of tables; later headings below it mean its
last element.
-/

namespace ProcessMigration.Toml

/-- How a table came about. -/
inductive TableKind where
  | explicit
  | implied
  | dotted
  deriving DecidableEq, Repr

/-- What a key stands for. -/
inductive Entry where
  | value (doc : Document)
  | table (kind : TableKind) (members : List (String × Entry))
  | tables (elements : List (List (String × Entry)))
  deriving Inhabited

/-- The entries of a table. -/
abbrev Members := List (String × Entry)

namespace Members

/-- Changes the entry of a key, or adds one. -/
def alter (key : String) (f : Option Entry → Option Entry) : Members → Option Members
  | [] => (f none).map fun e => [(key, e)]
  | (k, e) :: rest =>
    if k = key then (f (some e)).map fun e => (k, e) :: rest
    else (alter key f rest).map ((k, e) :: ·)

/-- Changes the table at the end of a path, making the tables on the way if they are missing. The
change is told how the table came about. -/
def descend (dotted : Bool) (f : TableKind → Members → Option Members) :
    List String → TableKind → Members → Option Members
  | [], kind, ms => f kind ms
  | key :: path, _, ms =>
    let inTable (kind : TableKind) (ms : Members) : Option Entry :=
      (descend dotted f path kind ms).map (.table kind)
    alter key (fun
      | none => inTable (if dotted then .dotted else .implied) []
      | some (.table kind ms) => if dotted && kind = .explicit then none else inTable kind ms
      | some (.tables elements) =>
        match elements.getLast? with
        | none => none
        | some last => (descend dotted f path .explicit last).map fun last =>
          .tables (elements.dropLast ++ [last])
      | some (.value _) => none) ms

/-- Gives a value to the key at the end of a path. -/
def assign (path : List String) (doc : Document) (ms : Members) : Option Members :=
  match path.getLast? with
  | none => none
  | some key =>
    let start := path.dropLast
    descend true (fun kind ms =>
      if !start.isEmpty && kind ≠ .dotted then none
      else alter key (fun
        | none => some (.value doc)
        | some _ => none) ms) start .explicit ms

/-- Makes the table of a heading. -/
def openTable (path : List String) (ms : Members) : Option Members :=
  match path.getLast? with
  | none => none
  | some key =>
    descend false (fun _ ms =>
      alter key (fun
        | none => some (.table .explicit [])
        | some (.table .implied ms) => some (.table .explicit ms)
        | some _ => none) ms) path.dropLast .explicit ms

/-- Makes the element of a heading in double brackets. -/
def openElement (path : List String) (ms : Members) : Option Members :=
  match path.getLast? with
  | none => none
  | some key =>
    descend false (fun _ ms =>
      alter key (fun
        | none => some (.tables [[]])
        | some (.tables elements) => some (.tables (elements ++ [[]]))
        | some _ => none) ms) path.dropLast .explicit ms

/-- Gives a value to a key below the last heading. -/
def assignBelow (heading path : List String) (doc : Document) (ms : Members) : Option Members :=
  descend false (fun _ ms => assign path doc ms) heading .explicit ms

end Members

mutual

/-- An entry as a document. -/
def Entry.document : Entry → Document
  | .value doc => doc
  | .table _ members => .object (memberDocuments members)
  | .tables elements => .array (elementDocuments elements)

/-- The entries of a table as members of a document. -/
def memberDocuments : List (String × Entry) → List (Option String × Document)
  | [] => []
  | (key, e) :: rest => (some key, e.document) :: memberDocuments rest

/-- The tables of an array as documents. -/
def elementDocuments : List (List (String × Entry)) → List Document
  | [] => []
  | members :: rest => .object (memberDocuments members) :: elementDocuments rest

end

/-- A table as a document. -/
def Members.document (ms : Members) : Document := .object (memberDocuments ms)

end ProcessMigration.Toml
