import Mathlib.Data.List.Forall2
import ProcessMigration.Proofs.NumberText

/-!
# What is read from a written value

The compact text of a JSON value is read as that value, but for the doubles: of these it is only said
that no whole number is mistaken for another one. So `Document.Says` leaves doubles open.

* `Json.text?_stringChars`: a written text is read as it was;
* `Json.valueAt?_chars`: a value read from a written value says it, and nothing behind it is read;
* `Json.ofChars?_chars`: the same of a whole text;
* `Json.printable_chars`: a written value holds no control character, so it stays on one line.
-/

namespace ProcessMigration

mutual

/-- The document says this value; what it says for a double is left open. -/
inductive Document.Says : Document → Json → Prop
  | null : Says .null .null
  | bool (b : Bool) : Says (.bool b) (.bool b)
  | number {v : Option Number} {n : Number}
      (h : ∀ k m, n = .int k → v = some (.int m) → m = k) : Says (.number v) (.number n)
  | string (s : String) : Says (.string (some s)) (.string s)
  | array {ds : List Document} {xs : List Json} (h : List.Forall₂ Document.Says ds xs) :
      Says (.array ds) (.array xs)
  | object {ms : List (Option String × Document)} {es : List (String × Json)}
      (h : List.Forall₂ Document.SaysMember ms es) : Says (.object ms) (.object es)

/-- The member has this key and says this value. -/
inductive Document.SaysMember : Option String × Document → String × Json → Prop
  | mk (key : String) {d : Document} {j : Json} (h : Document.Says d j) :
      SaysMember (some key, d) (key, j)

end

namespace Json

open Document (Says Piece pieces? joined? valueAt? itemsAt? membersAt? skipSpace numeral?)

/-! ## Texts -/

/-- The piece that a written character is read as. -/
def pieceOf (c : Char) : Piece :=
  if c = '"' ∨ c = '\\' ∨ 0x20 ≤ c.toNat ∨ c = '\n' ∨ c = '\r' ∨ c = '\t' ∨ c.toNat = 8 ∨
    c.toNat = 12 then .char c
  else .unit c.toNat

theorem hexUnit?_digitChar :
    ∀ n < 0x20, Document.hexUnit? '0' '0' (Nat.digitChar (n / 16)) (Nat.digitChar (n % 16)) =
      some n := by
  decide

theorem pieces?_escaped (c : Char) (rest : List Char) :
    pieces? (escaped c ++ rest) =
      (pieces? rest).map fun (ps, rest) => (pieceOf c :: ps, rest) := by
  unfold escaped
  -- quote and backslash, then what stands for itself, then the short escapes, then the long one
  split
  · subst_vars; rfl
  split
  · subst_vars; rfl
  split
  · next hquote hslash hprintable =>
    have hpiece : pieceOf c = .char c := if_pos (.inr (.inr (.inl hprintable)))
    rw [hpiece, List.singleton_append, Document.pieces?.eq_def]
    split
    · simp_all
    · simp_all
    · simp_all
    · simp_all
    · next heq =>
      cases heq
      rw [if_neg (by omega)]
  split
  · subst_vars; rfl
  split
  · subst_vars; rfl
  split
  · subst_vars; rfl
  split
  · next h =>
    have hc : c = Char.ofNat 8 := by rw [← h, Char.ofNat_toNat]
    subst hc
    rfl
  split
  · next h =>
    have hc : c = Char.ofNat 12 := by rw [← h, Char.ofNat_toNat]
    subst hc
    rfl
  · next hquote hslash hprintable hn hr ht hb hf =>
    have hpiece : pieceOf c = .unit c.toNat := by
      refine if_neg ?_
      rintro (h | h | h | h | h | h | h | h) <;> contradiction
    have hunit := hexUnit?_digitChar c.toNat (by omega)
    rw [hpiece]
    show pieces? ('\\' :: 'u' :: '0' :: '0' :: Nat.digitChar (c.toNat / 16) ::
      Nat.digitChar (c.toNat % 16) :: rest) = _
    rw [Document.pieces?.eq_def]
    simp only [hunit]

theorem pieces?_flatMap (cs rest : List Char) :
    pieces? (cs.flatMap escaped ++ '"' :: rest) = some (cs.map pieceOf, rest) := by
  induction cs with
  | nil => rfl
  | cons c cs ih =>
    rw [List.flatMap_cons, List.append_assoc, pieces?_escaped, ih]
    rfl

theorem joined?_pieceOf (c : Char) (ps : List Piece) :
    joined? (pieceOf c :: ps) = (joined? ps).map (c :: ·) := by
  unfold pieceOf
  split
  · rfl
  · next h =>
    have hsmall : c.toNat < 0x20 := by omega
    have hlead : Document.isLead c.toNat = false := by
      unfold Document.isLead
      simp only [Bool.and_eq_false_iff, decide_eq_false_iff_not]
      omega
    have htrail : Document.isTrail c.toNat = false := by
      unfold Document.isTrail
      simp only [Bool.and_eq_false_iff, decide_eq_false_iff_not]
      omega
    rw [Document.joined?.eq_def]
    simp only [hlead, htrail, Char.ofNat_toNat, Bool.false_eq_true, if_false]

theorem joined?_map_pieceOf (cs : List Char) : joined? (cs.map pieceOf) = some cs := by
  induction cs with
  | nil => rfl
  | cons c cs ih =>
    rw [List.map_cons, joined?_pieceOf, ih]
    rfl

/-- A written text is read as it was. -/
theorem text?_stringChars (s : String) (rest : List Char) :
    Document.text? (s.toList.flatMap escaped ++ '"' :: rest) = some (some s, rest) := by
  unfold Document.text?
  simp only [pieces?_flatMap, Option.map_some, joined?_map_pieceOf, String.ofList_toList]

/-! ## Values -/

theorem numeral?_numberChars {n : Number} {rest rest' : List Char} {m : Numeral}
    (hrest : ¬Goes rest) (h : numeral? (numberChars n ++ rest) = some (m, rest')) :
    (rest' = rest ∨ Goes rest') ∧ Says (.number m.value?) (.number n) := by
  refine ⟨(Leaves.numeral? h).append (fun c hc => isNumeral_of_mem_numberChars hc) hrest, ?_⟩
  refine .number ?_
  intro k v hk hv
  subst hk
  exact (numeral?_intChars hrest h).2 v hv

theorem skipSpace_cons {c : Char} (h : Document.isSpace c = false) (cs : List Char) :
    skipSpace (c :: cs) = c :: cs := by
  unfold Document.skipSpace
  rw [List.dropWhile_cons, h]
  rfl

theorem isSpace_of_isNumeral {c : Char} (h : isNumeral c = true) : Document.isSpace c = false := by
  apply Bool.eq_false_iff.2
  intro hspace
  simp only [Document.isSpace, Bool.or_eq_true, decide_eq_true_eq] at hspace
  rcases hspace with ((rfl | rfl) | rfl) | rfl <;> cases h

theorem skipSpace_of_goes {cs : List Char} (h : Goes cs) : skipSpace cs = cs := by
  obtain ⟨c, rest, rfl, hc⟩ := h
  exact skipSpace_cons (isSpace_of_isNumeral hc) rest

/-- Where a number stands, a number is read. -/
theorem valueAt?_of_number {cs : List Char} (h : Goes (skipSpace cs)) (fuel : Nat) :
    valueAt? (fuel + 1) cs =
      (numeral? (skipSpace cs)).map fun (n, r) => (.number n.value?, r) := by
  rw [Document.valueAt?.eq_def]
  simp only
  generalize skipSpace cs = text at h ⊢
  obtain ⟨c, more, rfl, hc⟩ := h
  split
  all_goals first
    | rfl
    | next heq =>
      cases heq
      cases hc

theorem valueAt?_of_goes {cs : List Char} (h : Goes cs) (fuel : Nat) :
    valueAt? (fuel + 1) cs = (numeral? cs).map fun (n, rest) => (.number n.value?, rest) := by
  have hskip := skipSpace_of_goes h
  rw [valueAt?_of_number (hskip.symm ▸ h), hskip]

theorem goes_numberChars (n : Number) (rest : List Char) : Goes (numberChars n ++ rest) := by
  obtain ⟨c, cs, hcs⟩ := List.exists_cons_of_ne_nil (numberChars_ne_nil n)
  refine ⟨c, cs ++ rest, by rw [hcs]; rfl, ?_⟩
  exact isNumeral_of_mem_numberChars (n := n) (by rw [hcs]; exact List.mem_cons_self)

/-- A number is not followed by more of it where a list or an object goes on or ends. -/
theorem not_goes_cons {c : Char} (h : isNumeral c = false) (rest : List Char) :
    ¬Goes (c :: rest) := by
  rintro ⟨d, tail, heq, hd⟩
  cases heq
  rw [h] at hd
  cases hd

theorem skipSpace_not_goes {r more : List Char} {c : Char} (h : skipSpace r = c :: more)
    (hc : isNumeral c = false) : ¬Goes r := by
  intro hr
  rw [skipSpace_of_goes hr] at h
  exact not_goes_cons hc more (h ▸ hr)

/-- Items are read one by one; behind each of them stands a comma or the closing bracket. -/
theorem itemsAt?_some {fuel : Nat} {cs rest : List Char} {ds : List Document}
    (h : itemsAt? fuel cs = some (ds, rest)) :
    ∃ fuel' d r, valueAt? fuel' cs = some (d, r) ∧ ¬Goes r ∧
      ((∃ more ds', skipSpace r = ',' :: more ∧ itemsAt? fuel' more = some (ds', rest) ∧
          ds = d :: ds') ∨
        (skipSpace r = ']' :: rest ∧ ds = [d])) := by
  cases fuel with
  | zero => cases h
  | succ fuel =>
    rw [Document.itemsAt?.eq_def] at h
    simp only at h
    split at h
    · cases h
    · next d r hvalue =>
      refine ⟨fuel, d, r, hvalue, ?_⟩
      split at h
      · next more hskip =>
        obtain ⟨⟨ds', rest'⟩, hitems, heq⟩ := Option.map_eq_some_iff.1 h
        cases heq
        exact ⟨skipSpace_not_goes hskip rfl, .inl ⟨more, ds', hskip, hitems, rfl⟩⟩
      · next more hskip =>
        cases h
        exact ⟨skipSpace_not_goes hskip rfl, .inr ⟨hskip, rfl⟩⟩
      · cases h

/-- Members are read one by one; behind each of them stands a comma or the closing brace. -/
theorem membersAt?_some {fuel : Nat} {cs rest : List Char}
    {ms : List (Option String × Document)} (h : membersAt? fuel ('"' :: cs) = some (ms, rest)) :
    ∃ fuel' key cs' cs'' d r, Document.text? cs = some (key, cs') ∧ skipSpace cs' = ':' :: cs'' ∧
      valueAt? fuel' cs'' = some (d, r) ∧ ¬Goes r ∧
      ((∃ more ms', skipSpace r = ',' :: more ∧ membersAt? fuel' more = some (ms', rest) ∧
          ms = (key, d) :: ms') ∨
        (skipSpace r = '\x7d' :: rest ∧ ms = [(key, d)])) := by
  cases fuel with
  | zero => cases h
  | succ fuel =>
    rw [Document.membersAt?.eq_def] at h
    simp only [skipSpace_cons (show Document.isSpace '"' = false from rfl)] at h
    split at h
    · cases h
    · next key cs' htext =>
      split at h
      · next cs'' hcolon =>
        split at h
        · cases h
        · next d r hvalue =>
          refine ⟨fuel, key, cs', cs'', d, r, htext, hcolon, hvalue, ?_⟩
          split at h
          · next more hskip =>
            obtain ⟨⟨ms', rest'⟩, hmembers, heq⟩ := Option.map_eq_some_iff.1 h
            cases heq
            exact ⟨skipSpace_not_goes hskip rfl, .inl ⟨more, ms', hskip, hmembers, rfl⟩⟩
          · next more hskip =>
            cases h
            exact ⟨skipSpace_not_goes hskip rfl, .inr ⟨hskip, rfl⟩⟩
          · cases h
      · cases h

/-- A member that is read of a written one has its key. -/
theorem membersAt?_written {fuel : Nat} {key : String} {cs rest : List Char}
    {ms : List (Option String × Document)}
    (h : membersAt? fuel ('"' :: (key.toList.flatMap escaped ++ '"' :: ':' :: cs)) =
      some (ms, rest)) :
    ∃ fuel' d r, valueAt? fuel' cs = some (d, r) ∧ ¬Goes r ∧
      ((∃ more ms', skipSpace r = ',' :: more ∧ membersAt? fuel' more = some (ms', rest) ∧
          ms = (some key, d) :: ms') ∨
        (skipSpace r = '\x7d' :: rest ∧ ms = [(some key, d)])) := by
  obtain ⟨fuel', key', cs', cs'', d, r, htext, hcolon, hread⟩ := membersAt?_some h
  rw [text?_stringChars] at htext
  cases htext
  rw [skipSpace_cons (show Document.isSpace ':' = false from rfl)] at hcolon
  cases hcolon
  exact ⟨fuel', d, r, hread⟩

/-- The first character of a value is no blank and closes nothing. -/
theorem chars_head (j : Json) (rest : List Char) :
    ∃ c cs, chars j ++ rest = c :: cs ∧ Document.isSpace c = false ∧ c ≠ ']' ∧ c ≠ '\x7d' := by
  have hplain : ∀ c cs, Document.isSpace c = false → c ≠ ']' → c ≠ '\x7d' →
      ∃ c' cs', c :: cs = c' :: cs' ∧ Document.isSpace c' = false ∧ c' ≠ ']' ∧ c' ≠ '\x7d' :=
    fun c cs hspace hbracket hbrace => ⟨c, cs, rfl, hspace, hbracket, hbrace⟩
  cases j with
  | null => exact hplain _ _ rfl (by decide) (by decide)
  | bool b => cases b <;> exact hplain _ _ rfl (by decide) (by decide)
  | number n =>
    obtain ⟨c, cs, heq, hc⟩ := goes_numberChars n rest
    refine ⟨c, cs, heq, isSpace_of_isNumeral hc, ?_, ?_⟩ <;> rintro rfl <;> cases hc
  | string s => exact hplain _ _ rfl (by decide) (by decide)
  | array items => exact hplain _ _ rfl (by decide) (by decide)
  | object members => exact hplain _ _ rfl (by decide) (by decide)

theorem itemChars_head (x : Json) (xs : List Json) (rest : List Char) :
    ∃ c cs, itemChars (x :: xs) ++ rest = c :: cs ∧ Document.isSpace c = false ∧ c ≠ ']' := by
  have htail : ∃ tail, itemChars (x :: xs) = chars x ++ tail := by
    cases xs with
    | nil => exact ⟨[], (List.append_nil _).symm⟩
    | cons y more => exact ⟨_, rfl⟩
  obtain ⟨tail, htail⟩ := htail
  obtain ⟨c, cs, heq, hspace, hbracket, _⟩ := chars_head x (tail ++ rest)
  exact ⟨c, cs, by rw [htail, List.append_assoc, heq], hspace, hbracket⟩

/-- The members of a written object: a key, a colon and a value, and then either the end or more. -/
theorem memberChars_cons (key : String) (x : Json) (ms : List (String × Json)) (rest : List Char) :
    memberChars ((key, x) :: ms) ++ rest =
      '"' :: (key.toList.flatMap escaped ++ '"' :: ':' :: (chars x ++
        match ms with
        | [] => rest
        | m :: more => ',' :: (memberChars (m :: more) ++ rest))) := by
  cases ms with
  | nil =>
    show stringChars key ++ ':' :: chars x ++ rest = _
    simp [stringChars]
  | cons m more =>
    show stringChars key ++ ':' :: chars x ++ ',' :: memberChars (m :: more) ++ rest = _
    simp [stringChars]

mutual

/-- A value read from a written value says it, and nothing behind it is read. Only a number may
leave something of itself, which is nothing that could stand behind a value. -/
theorem valueAt?_chars : ∀ (j : Json) {fuel : Nat} {rest rest' : List Char} {d : Document},
    ¬Goes rest → valueAt? fuel (chars j ++ rest) = some (d, rest') →
      (rest' = rest ∨ Goes rest') ∧ Says d j
  | j, 0, rest, rest', d, _, h => by cases h
  | .null, fuel + 1, rest, rest', d, _, h => by
    cases h
    exact ⟨.inl rfl, .null⟩
  | .bool true, fuel + 1, rest, rest', d, _, h => by
    cases h
    exact ⟨.inl rfl, .bool true⟩
  | .bool false, fuel + 1, rest, rest', d, _, h => by
    cases h
    exact ⟨.inl rfl, .bool false⟩
  | .number n, fuel + 1, rest, rest', d, hrest, h => by
    have hchars : chars (.number n) = numberChars n := rfl
    rw [hchars, valueAt?_of_goes (goes_numberChars n rest)] at h
    obtain ⟨⟨m, rest''⟩, hnumeral, heq⟩ := Option.map_eq_some_iff.1 h
    cases heq
    exact numeral?_numberChars hrest hnumeral
  | .string s, fuel + 1, rest, rest', d, _, h => by
    have hchars : chars (.string s) ++ rest = '"' :: (s.toList.flatMap escaped ++ '"' :: rest) := by
      show '"' :: (s.toList.flatMap escaped ++ ['"']) ++ rest = _
      simp
    have htext := text?_stringChars s rest
    rw [hchars, Document.valueAt?.eq_def] at h
    simp only [skipSpace_cons (show Document.isSpace '"' = false from rfl), htext,
      Option.map_some] at h
    cases h
    exact ⟨.inl rfl, .string s⟩
  | .array [], fuel + 1, rest, rest', d, _, h => by
    cases h
    exact ⟨.inl rfl, .array .nil⟩
  | .array (x :: xs), fuel + 1, rest, rest', d, _, h => by
    have hchars : chars (.array (x :: xs)) ++ rest =
        '[' :: (itemChars (x :: xs) ++ ']' :: rest) := by
      show '[' :: itemChars (x :: xs) ++ [']'] ++ rest = _
      simp
    obtain ⟨c, cs, hhead, hspace, hbracket⟩ := itemChars_head x xs (']' :: rest)
    rw [hchars, Document.valueAt?.eq_def] at h
    simp only [skipSpace_cons (show Document.isSpace '[' = false from rfl), hhead,
      skipSpace_cons hspace] at h
    split at h
    · next heq =>
      cases heq
      exact absurd rfl hbracket
    · rw [← hhead] at h
      obtain ⟨⟨ds, rest''⟩, hitems, heq⟩ := Option.map_eq_some_iff.1 h
      cases heq
      obtain ⟨rfl, hsays⟩ := itemsAt?_itemChars (x :: xs) hitems (List.cons_ne_nil _ _)
      exact ⟨.inl rfl, .array hsays⟩
  | .object [], fuel + 1, rest, rest', d, _, h => by
    cases h
    exact ⟨.inl rfl, .object .nil⟩
  | .object ((key, x) :: ms), fuel + 1, rest, rest', d, _, h => by
    have hchars : chars (.object ((key, x) :: ms)) ++ rest =
        '\x7b' :: (memberChars ((key, x) :: ms) ++ '\x7d' :: rest) := by
      show '\x7b' :: memberChars ((key, x) :: ms) ++ ['\x7d'] ++ rest = _
      simp
    have hhead := memberChars_cons key x ms ('\x7d' :: rest)
    rw [hchars, hhead, Document.valueAt?.eq_def] at h
    simp only [skipSpace_cons (show Document.isSpace '\x7b' = false from rfl),
      skipSpace_cons (show Document.isSpace '"' = false from rfl)] at h
    split at h
    · next heq => cases heq
    · rw [← hhead] at h
      obtain ⟨⟨ds, rest''⟩, hmembers, heq⟩ := Option.map_eq_some_iff.1 h
      cases heq
      obtain ⟨rfl, hsays⟩ := membersAt?_memberChars ((key, x) :: ms) hmembers (List.cons_ne_nil _ _)
      exact ⟨.inl rfl, .object hsays⟩

/-- The items read from a written list say what is in the list. -/
theorem itemsAt?_itemChars : ∀ (xs : List Json) {fuel : Nat} {rest rest' : List Char}
    {ds : List Document}, itemsAt? fuel (itemChars xs ++ ']' :: rest) = some (ds, rest') →
      xs ≠ [] → rest' = rest ∧ List.Forall₂ Says ds xs
  | [], _, _, _, _, _, hne => absurd rfl hne
  | [x], fuel, rest, rest', ds, h, _ => by
    have hchars : itemChars [x] = chars x := rfl
    rw [hchars] at h
    obtain ⟨fuel', d, r, hvalue, hr, hnext⟩ := itemsAt?_some h
    obtain ⟨hrest, hsays⟩ := valueAt?_chars x (not_goes_cons rfl _) hvalue
    obtain rfl := hrest.resolve_right hr
    rw [skipSpace_cons (show Document.isSpace ']' = false from rfl)] at hnext
    rcases hnext with ⟨more, ds', heq, _⟩ | ⟨heq, rfl⟩
    · cases heq
    · cases heq
      exact ⟨rfl, .cons hsays .nil⟩
  | x :: y :: more, fuel, rest, rest', ds, h, _ => by
    have hchars : itemChars (x :: y :: more) ++ ']' :: rest =
        chars x ++ ',' :: (itemChars (y :: more) ++ ']' :: rest) := by
      show chars x ++ ',' :: itemChars (y :: more) ++ ']' :: rest = _
      simp
    rw [hchars] at h
    obtain ⟨fuel', d, r, hvalue, hr, hnext⟩ := itemsAt?_some h
    obtain ⟨hrest, hsays⟩ := valueAt?_chars x (not_goes_cons rfl _) hvalue
    obtain rfl := hrest.resolve_right hr
    rw [skipSpace_cons (show Document.isSpace ',' = false from rfl)] at hnext
    rcases hnext with ⟨more', ds', heq, hitems, rfl⟩ | ⟨heq, _⟩
    · cases heq
      obtain ⟨rfl, hmore⟩ := itemsAt?_itemChars (y :: more) hitems (List.cons_ne_nil _ _)
      exact ⟨rfl, .cons hsays hmore⟩
    · cases heq

/-- The members read from a written object say what is in the object. -/
theorem membersAt?_memberChars : ∀ (es : List (String × Json)) {fuel : Nat} {rest rest' : List Char}
    {ms : List (Option String × Document)},
    membersAt? fuel (memberChars es ++ '\x7d' :: rest) = some (ms, rest') →
      es ≠ [] → rest' = rest ∧ List.Forall₂ Document.SaysMember ms es
  | [], _, _, _, _, _, hne => absurd rfl hne
  | [(key, x)], fuel, rest, rest', ms, h, _ => by
    rw [memberChars_cons] at h
    obtain ⟨fuel', d, r, hvalue, hr, hnext⟩ := membersAt?_written h
    obtain ⟨hrest, hsays⟩ := valueAt?_chars x (not_goes_cons rfl _) hvalue
    obtain rfl := hrest.resolve_right hr
    rw [skipSpace_cons (show Document.isSpace '\x7d' = false from rfl)] at hnext
    rcases hnext with ⟨more, ds', heq, _⟩ | ⟨heq, rfl⟩
    · cases heq
    · cases heq
      exact ⟨rfl, .cons (.mk key hsays) .nil⟩
  | (key, x) :: m :: more, fuel, rest, rest', ms, h, _ => by
    rw [memberChars_cons] at h
    obtain ⟨fuel', d, r, hvalue, hr, hnext⟩ := membersAt?_written h
    obtain ⟨hrest, hsays⟩ := valueAt?_chars x (not_goes_cons rfl _) hvalue
    obtain rfl := hrest.resolve_right hr
    rw [skipSpace_cons (show Document.isSpace ',' = false from rfl)] at hnext
    rcases hnext with ⟨more', ms', heq, hmembers, rfl⟩ | ⟨heq, _⟩
    · cases heq
      obtain ⟨rfl, hmore⟩ := membersAt?_memberChars (m :: more) hmembers (List.cons_ne_nil _ _)
      exact ⟨rfl, .cons (.mk key hsays) hmore⟩
    · cases heq

end

/-- A document read from a written value says it. -/
theorem ofChars?_chars {j : Json} {d : Document} (h : Document.ofChars? (chars j) = some d) :
    Says d j := by
  unfold Document.ofChars? at h
  split at h
  · next d' rest hvalue =>
    have hnil : ¬Goes [] := by rintro ⟨c, tail, heq, _⟩; cases heq
    rw [← List.append_nil (chars j)] at hvalue
    obtain ⟨_, hsays⟩ := valueAt?_chars j hnil hvalue
    split at h
    · cases h
      exact hsays
    · cases h
  · cases h

/-! ## One line -/

/-- The character is none of the control characters that break a line. -/
def Printable (c : Char) : Prop := 0x20 ≤ c.toNat

theorem printable_of_all {cs : List Char} (hcs : (cs.all fun c => 0x20 ≤ c.toNat) = true) {c : Char}
    (hc : c ∈ cs) : Printable c := by
  simpa [Printable] using List.all_eq_true.1 hcs c hc

theorem printable_escaped {c d : Char} (h : d ∈ escaped c) : Printable d := by
  unfold escaped at h
  split at h
  · exact printable_of_all rfl h
  split at h
  · exact printable_of_all rfl h
  split at h
  · next hprintable =>
    rw [List.mem_singleton.1 h]
    exact hprintable
  split at h
  · exact printable_of_all rfl h
  split at h
  · exact printable_of_all rfl h
  split at h
  · exact printable_of_all rfl h
  split at h
  · exact printable_of_all rfl h
  split at h
  · exact printable_of_all rfl h
  · next hsmall _ _ _ _ _ =>
    refine printable_of_all ?_ h
    have hdigits : ∀ n < 0x20, ((['\\', 'u', '0', '0', Nat.digitChar (n / 16),
        Nat.digitChar (n % 16)] : List Char).all fun c => 0x20 ≤ c.toNat) = true := by decide
    exact hdigits c.toNat (by omega)

theorem printable_stringChars {s : String} {c : Char} (h : c ∈ stringChars s) : Printable c := by
  have hquote : Printable '"' := by unfold Printable; decide
  rcases List.mem_append.1 h with h | h
  · rcases List.mem_cons.1 h with rfl | h
    · exact hquote
    · obtain ⟨d, _, hd⟩ := List.mem_flatMap.1 h
      exact printable_escaped hd
  · rw [List.mem_singleton.1 h]
    exact hquote

theorem printable_of_isNumeral {c : Char} (h : isNumeral c = true) : Printable c := by
  simp only [isNumeral, Bool.or_eq_true, decide_eq_true_eq] at h
  rcases h with ((((h | rfl) | rfl) | rfl) | rfl) | rfl
  · have hdigit : 48 ≤ c.toNat := (Char.isDigit_iff_toNat.1 h).1
    unfold Printable
    omega
  all_goals unfold Printable; decide

mutual

/-- A written value holds no control character. -/
theorem printable_chars : ∀ (j : Json) {c : Char}, c ∈ chars j → Printable c
  | .null, c, h => printable_of_all rfl h
  | .bool true, c, h => printable_of_all rfl h
  | .bool false, c, h => printable_of_all rfl h
  | .number n, c, h => printable_of_isNumeral (isNumeral_of_mem_numberChars h)
  | .string s, c, h => printable_stringChars h
  | .array xs, c, h => by
    rcases List.mem_append.1 h with h | h
    · rcases List.mem_cons.1 h with rfl | h
      · unfold Printable; decide
      · exact printable_itemChars xs h
    · rw [List.mem_singleton.1 h]
      unfold Printable; decide
  | .object es, c, h => by
    rcases List.mem_append.1 h with h | h
    · rcases List.mem_cons.1 h with rfl | h
      · unfold Printable; decide
      · exact printable_memberChars es h
    · rw [List.mem_singleton.1 h]
      unfold Printable; decide

theorem printable_itemChars : ∀ (xs : List Json) {c : Char}, c ∈ itemChars xs → Printable c
  | [], c, h => by cases h
  | [x], c, h => printable_chars x h
  | x :: y :: more, c, h => by
    rcases List.mem_append.1 h with h | h
    · exact printable_chars x h
    · rcases List.mem_cons.1 h with rfl | h
      · unfold Printable; decide
      · exact printable_itemChars (y :: more) h

theorem printable_memberChars : ∀ (es : List (String × Json)) {c : Char},
    c ∈ memberChars es → Printable c
  | [], c, h => by cases h
  | [(key, x)], c, h => by
    rcases List.mem_append.1 h with h | h
    · exact printable_stringChars h
    · rcases List.mem_cons.1 h with rfl | h
      · unfold Printable; decide
      · exact printable_chars x h
  | (key, x) :: m :: more, c, h => by
    have hsplit : c ∈ stringChars key ∨ c = ':' ∨ c ∈ chars x ∨ c = ',' ∨
        c ∈ memberChars (m :: more) := by
      have h' : c ∈ stringChars key ++ ':' :: chars x ++ ',' :: memberChars (m :: more) := h
      simpa using h'
    rcases hsplit with h | rfl | h | rfl | h
    · exact printable_stringChars h
    · unfold Printable; decide
    · exact printable_chars x h
    · unfold Printable; decide
    · exact printable_memberChars (m :: more) h

end

end Json
end ProcessMigration
