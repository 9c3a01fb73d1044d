import ProcessMigration.Toml.Scalar
import ProcessMigration.Toml.Table
import ProcessMigration.Toml.Text

/-!
# Reading a configuration file

`Toml.read?` takes a whole file: lines with a heading, a key and its value, or nothing but a comment.
A byte order mark at the beginning is passed over. The answer is the document that a JSON file with
the same content would give, so that both are decoded alike.
-/

namespace ProcessMigration.Toml

/-- Arrays and inline tables are nested less deeply than this, and paths of keys are shorter. -/
def depthLimit : Nat := 80

/-- A path of keys. -/
def keyPath? (cs : List Char) : Option (List String × List Char) := path? (depthLimit - 1) cs

/-! ## Values -/

mutual

/-- A value inside `depth` arrays and inline tables. -/
def valueAt? : Nat → Nat → List Char → Option (Document × List Char)
  | 0, _, _ => none
  | fuel + 1, depth, cs =>
    match cs with
    | 't' :: 'r' :: 'u' :: 'e' :: rest => some (.bool true, rest)
    | 'f' :: 'a' :: 'l' :: 's' :: 'e' :: rest => some (.bool false, rest)
    | '[' :: rest =>
      if depth + 1 < depthLimit then
        (itemsAt? fuel (depth + 1) rest).map fun (xs, rest) => (.array xs, rest)
      else none
    | '\x7b' :: rest =>
      if depth + 1 < depthLimit then
        match skipBlanks rest with
        | '\x7d' :: rest => some (.object [], rest)
        | _ => (membersAt? fuel (depth + 1) [] rest).map fun (ms, rest) => (ms.document, rest)
      else none
    | '"' :: _ => (text? cs).map fun (s, rest) => (.string (some (String.ofList s)), rest)
    | '\'' :: _ => (text? cs).map fun (s, rest) => (.string (some (String.ofList s)), rest)
    | cs => scalar? cs

/-- The items of an array and its closing bracket; a comma may stand after the last item. -/
def itemsAt? : Nat → Nat → List Char → Option (List Document × List Char)
  | 0, _, _ => none
  | fuel + 1, depth, cs =>
    match skipLayout false cs with
    | none => none
    | some (']' :: rest) => some ([], rest)
    | some cs =>
      match valueAt? fuel depth cs with
      | none => none
      | some (x, rest) =>
        match skipLayout false rest with
        | some (',' :: rest) =>
          (itemsAt? fuel depth rest).map fun (xs, rest) => (x :: xs, rest)
        | some (']' :: rest) => some ([x], rest)
        | _ => none

/-- The members of an inline table and its closing bracket, added to those there are. -/
def membersAt? : Nat → Nat → Members → List Char → Option (Members × List Char)
  | 0, _, _, _ => none
  | fuel + 1, depth, ms, cs =>
    match keyPath? cs with
    | some (path, '=' :: rest) =>
      match valueAt? fuel depth (skipBlanks rest) with
      | none => none
      | some (x, rest) =>
        match ms.assign path x with
        | none => none
        | some ms =>
          match skipBlanks rest with
          | ',' :: rest => membersAt? fuel depth ms rest
          | '\x7d' :: rest => some (ms, rest)
          | _ => none
    | _ => none

end

/-- A value. Each call uses up a character or is the only call on its list, so the fuel suffices. -/
def value? (cs : List Char) : Option (Document × List Char) := valueAt? (2 * cs.length + 2) 0 cs

/-! ## Lines -/

/-- One line that is not empty. -/
inductive Line where
  | heading (path : List String)
  | element (path : List String)
  | assignment (path : List String) (doc : Document)

/-- A line, and what follows it. -/
def line? : List Char → Option (Line × List Char)
  | '[' :: '[' :: rest =>
    match keyPath? rest with
    | some (path, ']' :: ']' :: rest) => (afterLine? rest).map fun rest => (.element path, rest)
    | _ => none
  | '[' :: rest =>
    match keyPath? rest with
    | some (path, ']' :: rest) => (afterLine? rest).map fun rest => (.heading path, rest)
    | _ => none
  | cs =>
    match keyPath? cs with
    | some (path, '=' :: rest) =>
      match value? (skipBlanks rest) with
      | none => none
      | some (doc, rest) => (afterLine? rest).map fun rest => (.assignment path doc, rest)
    | _ => none

/-- The lines of a file, at most so many. -/
def lines? : Nat → List Char → Option (List Line)
  | 0, _ => none
  | fuel + 1, cs =>
    match skipLayout false (skipBlanks cs) with
    | some [] => some []
    | some cs =>
      match line? cs with
      | none => none
      | some (l, rest) => (lines? fuel rest).map (l :: ·)
    | none => none

/-- Adds the lines to the tables; the first argument is the path of the last heading. -/
def build? : List String → Members → List Line → Option Members
  | _, ms, [] => some ms
  | _, ms, .heading path :: rest => (ms.openTable path).bind fun ms => build? path ms rest
  | _, ms, .element path :: rest => (ms.openElement path).bind fun ms => build? path ms rest
  | heading, ms, .assignment path doc :: rest =>
    (ms.assignBelow heading path doc).bind fun ms => build? heading ms rest

/-- The characters after a byte order mark. -/
def skipMark : List Char → List Char
  | '\ufeff' :: rest => rest
  | cs => cs

/-- The document of a configuration file. -/
def read? (s : String) : Option Document :=
  let cs := skipMark s.toList
  ((lines? (cs.length + 1) cs).bind (build? [] [])).map Members.document

end ProcessMigration.Toml
