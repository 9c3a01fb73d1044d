import ProcessMigration.Json.Reader

/-!
# Texts, keys and layout of a configuration

The small parts of a configuration file:

* blanks are spaces and tabs; a comment goes from a hash to the end of its line;
* a text stands between quotes, with escapes, or between apostrophes, as it is; three of either open
  a text of several lines, whose first line feed does not count;
* a key is a bare word or a text of one line; several of them joined by points make a path.

The readers consume the characters from the front and return the rest.
-/

namespace ProcessMigration.Toml

/-! ## Layout -/

/-- A blank inside a line. -/
def isBlank (c : Char) : Bool := c = ' ' || c = '\t'

/-- A character that may stand in a comment or in a text of one line. -/
def isPlain (c : Char) : Bool := c = '\t' || (0x20 ≤ c.toNat && c.toNat ≠ 0x7F)

/-- Drops the blanks at the front. -/
def skipBlanks (cs : List Char) : List Char := cs.dropWhile isBlank

/-- What follows a line break, if one comes next. -/
def afterBreak? : List Char → Option (List Char)
  | '\n' :: rest => some rest
  | '\r' :: '\n' :: rest => some rest
  | _ => none

/-- What follows the end of the line, if only blanks and a comment come before it. -/
def afterLine? (cs : List Char) : Option (List Char) :=
  let cs := skipBlanks cs
  let cs := match cs with
    | '#' :: rest => rest.dropWhile isPlain
    | cs => cs
  if cs.isEmpty then some [] else afterBreak? cs

/-- Drops blanks, line breaks and comments, as they may stand between lines and between the items of
an array. A comment may end with the file. -/
def skipLayout (inComment : Bool) : List Char → Option (List Char)
  | [] => some []
  | '\n' :: rest => skipLayout false rest
  | '\r' :: '\n' :: rest => skipLayout false rest
  | c :: rest =>
    if inComment then if isPlain c then skipLayout true rest else none
    else if isBlank c then skipLayout false rest
    else if c = '#' then skipLayout true rest
    else some (c :: rest)

/-! ## Texts -/

/-- What a backslash and this letter stand for. -/
def escape? : Char → Option Char
  | 'b' => some (Char.ofNat 8)
  | 't' => some '\t'
  | 'n' => some '\n'
  | 'f' => some (Char.ofNat 12)
  | 'r' => some '\r'
  | '"' => some '"'
  | '\\' => some '\\'
  | _ => none

/-- The character of a code point in hexadecimal. -/
def codePoint? (ds : List Char) : Option Char := do
  let n := (← ds.mapM Document.hexDigit?).foldl (fun n d => n * 16 + d) 0
  if n.isValidChar then some (Char.ofNat n) else none

/-- The characters of a text up to its closing quote. -/
def basic? : List Char → Option (List Char × List Char)
  | [] => none
  | '"' :: rest => some ([], rest)
  | '\\' :: 'u' :: a :: b :: c :: d :: rest =>
    match codePoint? [a, b, c, d] with
    | none => none
    | some x => (basic? rest).map fun (cs, rest) => (x :: cs, rest)
  | '\\' :: 'U' :: a :: b :: c :: d :: e :: f :: g :: h :: rest =>
    match codePoint? [a, b, c, d, e, f, g, h] with
    | none => none
    | some x => (basic? rest).map fun (cs, rest) => (x :: cs, rest)
  | '\\' :: e :: rest =>
    match escape? e with
    | none => none
    | some x => (basic? rest).map fun (cs, rest) => (x :: cs, rest)
  | c :: rest => if isPlain c then (basic? rest).map fun (cs, rest) => (c :: cs, rest) else none

/-- The characters of a text up to its closing apostrophe. -/
def literal? : List Char → Option (List Char × List Char)
  | [] => none
  | '\'' :: rest => some ([], rest)
  | c :: rest => if isPlain c then (literal? rest).map fun (cs, rest) => (c :: cs, rest) else none

/-- A backslash at the end of a line: only blanks stand between it and the line break. -/
def endsLine (cs : List Char) : Bool := (afterBreak? (skipBlanks cs)).isSome

/-- The characters of a text of several lines up to its three closing quotes; one or two more quotes
before these belong to the text. While `joining`, blanks and line breaks are dropped. -/
def basicLines? (joining : Bool) : List Char → Option (List Char × List Char)
  | [] => none
  | '"' :: '"' :: '"' :: '"' :: '"' :: rest => some (['"', '"'], rest)
  | '"' :: '"' :: '"' :: '"' :: rest => some (['"'], rest)
  | '"' :: '"' :: '"' :: rest => some ([], rest)
  | '\\' :: 'u' :: a :: b :: c :: d :: rest =>
    match codePoint? [a, b, c, d] with
    | none => none
    | some x => (basicLines? false rest).map fun (cs, rest) => (x :: cs, rest)
  | '\\' :: 'U' :: a :: b :: c :: d :: e :: f :: g :: h :: rest =>
    match codePoint? [a, b, c, d, e, f, g, h] with
    | none => none
    | some x => (basicLines? false rest).map fun (cs, rest) => (x :: cs, rest)
  | '\\' :: e :: rest =>
    if endsLine (e :: rest) then basicLines? true (e :: rest)
    else
      match escape? e with
      | none => none
      | some x => (basicLines? false rest).map fun (cs, rest) => (x :: cs, rest)
  | '\r' :: '\n' :: rest =>
    if joining then basicLines? true rest
    else (basicLines? false rest).map fun (cs, rest) => ('\n' :: cs, rest)
  | c :: rest =>
    if joining && (isBlank c || c = '\n') then basicLines? true rest
    else if isPlain c || c = '\n' then
      (basicLines? false rest).map fun (cs, rest) => (c :: cs, rest)
    else none

/-- The characters of a text of several lines up to its three closing apostrophes; one or two more
before these belong to the text. -/
def literalLines? : List Char → Option (List Char × List Char)
  | [] => none
  | '\'' :: '\'' :: '\'' :: '\'' :: '\'' :: rest => some (['\'', '\''], rest)
  | '\'' :: '\'' :: '\'' :: '\'' :: rest => some (['\''], rest)
  | '\'' :: '\'' :: '\'' :: rest => some ([], rest)
  | '\r' :: '\n' :: rest => (literalLines? rest).map fun (cs, rest) => ('\n' :: cs, rest)
  | c :: rest =>
    if isPlain c || c = '\n' then (literalLines? rest).map fun (cs, rest) => (c :: cs, rest)
    else none

/-- Drops the line break right after the opening of a text of several lines. -/
def skipBreak (cs : List Char) : List Char := (afterBreak? cs).getD cs

/-- A text of any form. -/
def text? : List Char → Option (List Char × List Char)
  | '"' :: '"' :: '"' :: rest => basicLines? false (skipBreak rest)
  | '\'' :: '\'' :: '\'' :: rest => literalLines? (skipBreak rest)
  | '"' :: rest => basic? rest
  | '\'' :: rest => literal? rest
  | _ => none

/-! ## Keys -/

/-- A character of a bare key. -/
def isBare (c : Char) : Bool := c.isAlphanum || c = '-' || c = '_'

/-- One key. -/
def key? : List Char → Option (String × List Char)
  | '"' :: rest => (basic? rest).map fun (cs, rest) => (String.ofList cs, rest)
  | '\'' :: rest => (literal? rest).map fun (cs, rest) => (String.ofList cs, rest)
  | cs =>
    match cs.takeWhile isBare with
    | [] => none
    | word => some (String.ofList word, cs.dropWhile isBare)

/-- Keys joined by points, at most so many of them, with the blanks around them. -/
def path? : Nat → List Char → Option (List String × List Char)
  | 0, _ => none
  | fuel + 1, cs =>
    match key? (skipBlanks cs) with
    | none => none
    | some (key, rest) =>
      match skipBlanks rest with
      | '.' :: rest => (path? fuel rest).map fun (keys, rest) => (key :: keys, rest)
      | rest => some ([key], rest)

end ProcessMigration.Toml
