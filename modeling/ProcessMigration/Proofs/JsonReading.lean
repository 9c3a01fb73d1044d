import ProcessMigration.Json.Decode
import ProcessMigration.Proofs.JsonText

/-!
# Written values are read back in every place

A value **reads back** when the text written for it is read as that value. The readers take what they
need from the front and never look behind it, so such a text may stand anywhere in a larger one.

* `Document.text?_append`, `Document.valueAt?_append`: what is read of a text or a value does not
  depend on what follows, and more fuel changes nothing;
* `Document.Says.eq_document`: a document from which the value is read back is that of the value;
* `Json.Readable`: wherever the text of the value stands, the document of the value is read;
  `Json.readable_array` and `Json.readable_object` build such values from such values;
* `Json.readsBack_iff`: a value that is read back is read everywhere, as far as there is room.
-/

namespace ProcessMigration

namespace Document

open Json (Goes)

variable {cs rest : List Char}

/-! ## Texts -/

/-- What is read of the pieces of a text does not depend on what follows. -/
theorem pieces?_append (rest : List Char) {ps : List Piece} {r : List Char}
    (h : pieces? cs = some (ps, r)) : pieces? (cs ++ rest) = some (ps, r ++ rest) := by
  -- the cases are those of the reader; where it looks at a second character there is one
  fun_induction pieces? cs generalizing ps r with
  | case1 => cases h
  | case2 cs =>
    cases h
    rfl
  | case3 a b c d cs hunit => cases h
  | case4 a b c d cs u hunit ih =>
    obtain ⟨⟨ps', r'⟩, hps, heq⟩ := Option.map_eq_some_iff.1 h
    cases heq
    simp only [List.cons_append]
    rw [pieces?.eq_def]
    simp only [hunit, ih hps, Option.map_some]
  | case5 e cs hnot hshort => cases h
  | case6 e cs hnot c hshort ih =>
    obtain ⟨⟨ps', r'⟩, hps, heq⟩ := Option.map_eq_some_iff.1 h
    cases heq
    have he : e ≠ 'u' := by
      rintro rfl
      cases hshort
    simp only [List.cons_append]
    rw [pieces?.eq_def]
    simp [he, hshort, ih hps]
  | case7 c cs hquote hunit hshort hcontrol => cases h
  | case8 c cs hquote hunit hshort hcontrol ih =>
    obtain ⟨⟨ps', r'⟩, hps, heq⟩ := Option.map_eq_some_iff.1 h
    cases heq
    have hslash : c ≠ '\\' := by
      rintro rfl
      cases cs with
      | nil => cases hps
      | cons e more => exact hshort e more rfl rfl
    rw [List.cons_append, pieces?.eq_def]
    simp [hslash, hcontrol, ih hps]

/-- What is read of a text does not depend on what follows. -/
theorem text?_append (rest : List Char) {s : Option String} {r : List Char}
    (h : text? cs = some (s, r)) : text? (cs ++ rest) = some (s, r ++ rest) := by
  obtain ⟨⟨ps, r'⟩, hps, heq⟩ := Option.map_eq_some_iff.1 h
  cases heq
  unfold text?
  rw [pieces?_append rest hps]
  rfl

/-! ## Values -/

theorem skipSpace_append {c : Char} {more : List Char} (rest : List Char)
    (h : skipSpace cs = c :: more) : skipSpace (cs ++ rest) = c :: (more ++ rest) := by
  unfold skipSpace at h ⊢
  rw [List.dropWhile_append, h]
  rfl

/-- A number that is read begins with a character of numbers. -/
theorem goes_of_numeral? {n : Numeral} {r : List Char} (h : numeral? cs = some (n, r)) :
    Goes cs := by
  cases cs with
  | nil => cases h
  | cons c cs =>
    refine ⟨c, cs, rfl, ?_⟩
    by_contra hc
    have hdigit : c.isDigit = false := Bool.eq_false_iff.2 fun hd => hc (by simp [Json.isNumeral, hd])
    have hminus : c ≠ '-' := by
      rintro rfl
      exact hc rfl
    have hrun : (digitRun (c :: cs)).1 = [] := by simp [digitRun, hdigit]
    have hnone : unsigned? false (c :: cs) = none := by
      unfold unsigned? whole?
      generalize digitRun (c :: cs) = run at hrun ⊢
      obtain ⟨ds, r'⟩ := run
      cases hrun
      rfl
    simp [numeral?, hminus, hnone] at h

theorem ne_nil_of_itemsAt? {fuel : Nat} {r : List Char} {ds : List Document}
    (h : itemsAt? fuel cs = some (ds, r)) : cs ≠ [] := by
  rintro rfl
  match fuel with
  | 0 => cases h
  | 1 => cases h
  | _ + 2 => cases h

theorem ne_nil_of_membersAt? {fuel : Nat} {r : List Char} {ms : List (Option String × Document)}
    (h : membersAt? fuel cs = some (ms, r)) : cs ≠ [] := by
  rintro rfl
  cases fuel <;> cases h

mutual

/-- What is read of a value does not depend on what follows, and more fuel changes nothing. -/
theorem valueAt?_append : ∀ {fuel fuel' : Nat} {cs rest r : List Char} {d : Document},
    ¬Goes rest → fuel ≤ fuel' → valueAt? fuel cs = some (d, r) →
      valueAt? fuel' (cs ++ rest) = some (d, r ++ rest)
  | 0, _, _, _, _, _, _, _, h => by cases h
  | fuel + 1, 0, _, _, _, _, _, hle, _ => by omega
  | fuel + 1, fuel' + 1, cs, rest, r, d, hrest, hle, h => by
    have hfuel : fuel ≤ fuel' := by omega
    rw [valueAt?.eq_def] at h
    simp only at h
    split at h
    case h_1 heq | h_2 heq | h_3 heq =>
      cases h
      rw [valueAt?.eq_def]
      simp only [skipSpace_append rest heq, List.cons_append]
    case h_4 heq =>
      obtain ⟨⟨s, r'⟩, htext, hd⟩ := Option.map_eq_some_iff.1 h
      cases hd
      rw [valueAt?.eq_def]
      simp only [skipSpace_append rest heq, text?_append rest htext, Option.map_some]
    case h_5 inner heq =>
      rw [valueAt?.eq_def]
      simp only [skipSpace_append rest heq]
      split at h
      · next heq' =>
        cases h
        simp only [skipSpace_append rest heq']
      · next hclose =>
        obtain ⟨⟨ds, r'⟩, hitems, hd⟩ := Option.map_eq_some_iff.1 h
        cases hd
        obtain ⟨c, more, heq'⟩ := List.exists_cons_of_ne_nil (ne_nil_of_itemsAt? hitems)
        have hbracket : c ≠ ']' := fun hc => hclose more (by rw [heq', hc])
        rw [heq'] at hitems
        have hitems' := itemsAt?_append hrest hfuel hitems
        rw [List.cons_append] at hitems'
        simp [skipSpace_append rest heq', hbracket, hitems']
    case h_6 inner heq =>
      rw [valueAt?.eq_def]
      simp only [skipSpace_append rest heq]
      split at h
      · next heq' =>
        cases h
        simp only [skipSpace_append rest heq']
      · next hclose =>
        obtain ⟨⟨ms, r'⟩, hmembers, hd⟩ := Option.map_eq_some_iff.1 h
        cases hd
        obtain ⟨c, more, heq'⟩ := List.exists_cons_of_ne_nil (ne_nil_of_membersAt? hmembers)
        have hbrace : c ≠ '\x7d' := fun hc => hclose more (by rw [heq', hc])
        rw [heq'] at hmembers
        have hmembers' := membersAt?_append hrest hfuel hmembers
        rw [List.cons_append] at hmembers'
        simp [skipSpace_append rest heq', hbrace, hmembers']
    case h_7 =>
      -- whatever else stands there is read as a number
      obtain ⟨⟨n, r'⟩, hnumeral, hd⟩ := Option.map_eq_some_iff.1 h
      cases hd
      have hgoes := goes_of_numeral? hnumeral
      obtain ⟨c, more, heq, hc⟩ := hgoes
      have hskip : skipSpace (cs ++ rest) = skipSpace cs ++ rest := by
        rw [skipSpace_append rest heq, heq, List.cons_append]
      rw [Json.valueAt?_of_number, hskip, numeral?_append hrest hnumeral]
      · rfl
      · rw [hskip, heq]
        exact ⟨c, more ++ rest, rfl, hc⟩

/-- So it is with the items of an array. -/
theorem itemsAt?_append : ∀ {fuel fuel' : Nat} {cs rest r : List Char} {ds : List Document},
    ¬Goes rest → fuel ≤ fuel' → itemsAt? fuel cs = some (ds, r) →
      itemsAt? fuel' (cs ++ rest) = some (ds, r ++ rest)
  | 0, _, _, _, _, _, _, _, h => by cases h
  | fuel + 1, 0, _, _, _, _, _, hle, _ => by omega
  | fuel + 1, fuel' + 1, cs, rest, r, ds, hrest, hle, h => by
    have hfuel : fuel ≤ fuel' := by omega
    rw [itemsAt?.eq_def] at h
    simp only at h
    split at h
    · cases h
    · next d r₁ hvalue =>
      rw [itemsAt?.eq_def]
      simp only [valueAt?_append hrest hfuel hvalue]
      split at h
      · next heq =>
        obtain ⟨⟨ds', r'⟩, hitems, hd⟩ := Option.map_eq_some_iff.1 h
        cases hd
        simp only [skipSpace_append rest heq, itemsAt?_append hrest hfuel hitems, Option.map_some]
      · next heq =>
        cases h
        simp only [skipSpace_append rest heq]
      · cases h

/-- So it is with the members of an object. -/
theorem membersAt?_append : ∀ {fuel fuel' : Nat} {cs rest r : List Char}
    {ms : List (Option String × Document)}, ¬Goes rest → fuel ≤ fuel' →
      membersAt? fuel cs = some (ms, r) → membersAt? fuel' (cs ++ rest) = some (ms, r ++ rest)
  | 0, _, _, _, _, _, _, _, h => by cases h
  | fuel + 1, 0, _, _, _, _, _, hle, _ => by omega
  | fuel + 1, fuel' + 1, cs, rest, r, ms, hrest, hle, h => by
    have hfuel : fuel ≤ fuel' := by omega
    rw [membersAt?.eq_def] at h
    simp only at h
    split at h
    · next hquote =>
      split at h
      · cases h
      · next key r₁ htext =>
        split at h
        · next hcolon =>
          split at h
          · cases h
          · next d r₂ hvalue =>
            rw [membersAt?.eq_def]
            simp only [skipSpace_append rest hquote, text?_append rest htext,
              skipSpace_append rest hcolon, valueAt?_append hrest hfuel hvalue]
            split at h
            · next heq =>
              obtain ⟨⟨ms', r'⟩, hmembers, hd⟩ := Option.map_eq_some_iff.1 h
              cases hd
              simp only [skipSpace_append rest heq, membersAt?_append hrest hfuel hmembers,
                Option.map_some]
            · next heq =>
              cases h
              simp only [skipSpace_append rest heq]
            · cases h
        · cases h
    · cases h

end

end Document

namespace Document.Says

theorem keys_of_members {ms : List (Option String × Document)} {es pairs : List (String × Json)}
    (h : List.Forall₂ SaysMember ms es) (hpairs : memberValues? ms = some pairs) :
    pairs.map (·.1) = es.map (·.1) := by
  induction h generalizing pairs with
  | nil =>
    cases hpairs
    rfl
  | cons hm _ ih =>
    obtain ⟨key, _⟩ := hm
    obtain ⟨v, _, hpairs⟩ := Option.bind_eq_some_iff.1 hpairs
    obtain ⟨vs, hvs, hpairs⟩ := Option.bind_eq_some_iff.1 hpairs
    cases hpairs
    rw [List.map_cons, List.map_cons, ih hvs]

mutual

/-- A document from which a value is read that it says is the document of the value. -/
theorem eq_document : ∀ {d : Document} (j : Json), Says d j → d.value? = some j → d = j.document
  | _, .null, .null, _ => rfl
  | _, .bool b, .bool _, _ => rfl
  | _, .number n, .number (v := v) _, hv => by
    obtain ⟨n', rfl, hn⟩ := Option.map_eq_some_iff.1 hv
    cases hn
    rfl
  | _, .string s, .string _, _ => rfl
  | _, .array xs, .array h, hv => by
    obtain ⟨xs', hxs, heq⟩ := Option.map_eq_some_iff.1 hv
    cases heq
    exact congrArg Document.array (eq_documents xs h hxs)
  | _, .object es, .object h, hv => by
    obtain ⟨pairs, hpairs, heq⟩ := Option.map_eq_some_iff.1 hv
    have hentries : (SortedMap.ofList pairs).entries = es := Json.object.inj heq
    have hkeys : pairs.map (·.1) = es.map (·.1) := keys_of_members h hpairs
    -- the value has its keys in order, so the members were in order and none of them was dropped
    have hsorted : pairs.Pairwise fun a b => a.1 < b.1 := by
      have hes : (es.map (·.1)).Pairwise (· < ·) := by
        rw [← hentries]
        exact List.pairwise_map.2 (SortedMap.ofList pairs).sorted
      rw [← hkeys] at hes
      exact List.pairwise_map.1 hes
    rw [SortedMap.entries_ofList hsorted] at hentries
    subst hentries
    exact congrArg Document.object (eq_memberDocuments pairs h hpairs)

theorem eq_documents : ∀ {ds : List Document} (xs : List Json), List.Forall₂ Says ds xs →
    Document.itemValues? ds = some xs → ds = Json.documents xs
  | _, [], .nil, _ => rfl
  | _, x :: xs, .cons h hrest, hv => by
    obtain ⟨v, hv₁, hv⟩ := Option.bind_eq_some_iff.1 hv
    obtain ⟨vs, hvs, hv⟩ := Option.bind_eq_some_iff.1 hv
    cases hv
    exact congrArg₂ List.cons (eq_document x h hv₁) (eq_documents xs hrest hvs)

theorem eq_memberDocuments : ∀ {ms : List (Option String × Document)} (es : List (String × Json)),
    List.Forall₂ SaysMember ms es → Document.memberValues? ms = some es →
      ms = Json.memberDocuments es
  | _, [], .nil, _ => rfl
  | _, (key, x) :: es, .cons (.mk _ h) hrest, hv => by
    obtain ⟨v, hv₁, hv⟩ := Option.bind_eq_some_iff.1 hv
    obtain ⟨vs, hvs, hv⟩ := Option.bind_eq_some_iff.1 hv
    cases hv
    exact congrArg₂ List.cons (congrArg _ (eq_document x h hv₁)) (eq_memberDocuments es hrest hvs)

end

end Document.Says

namespace Json

open Document (valueAt? itemsAt? membersAt? skipSpace numeral?)

/-! ## Values in their places -/

/-- Wherever the text of the value stands, it is read as the document of the value. -/
def Readable (j : Json) : Prop :=
  ∀ ⦃fuel : Nat⦄ ⦃rest : List Char⦄, ¬Goes rest → 2 * j.chars.length + 2 ≤ fuel →
    valueAt? fuel (j.chars ++ rest) = some (j.document, rest)

theorem readable_null : Readable .null := by
  intro fuel rest _ hfuel
  match fuel with
  | fuel + 1 => rfl

theorem readable_string (s : String) : Readable (.string s) := by
  intro fuel rest _ hfuel
  have hchars : chars (.string s) ++ rest = '"' :: (s.toList.flatMap escaped ++ '"' :: rest) := by
    show '"' :: (s.toList.flatMap escaped ++ ['"']) ++ rest = _
    simp
  match fuel with
  | fuel + 1 =>
    rw [hchars, Document.valueAt?.eq_def]
    simp only [skipSpace_cons (show Document.isSpace '"' = false from rfl), text?_stringChars,
      Option.map_some]
    rfl

theorem readable_int {n : Int} (hlow : -2 ^ 63 ≤ n) (hhigh : n < 2 ^ 64) : Readable (.int n) := by
  intro fuel rest hrest hfuel
  obtain ⟨m, hnumeral, hvalue⟩ := numeral?_int hlow hhigh hrest
  have hchars : chars (.int n) = numberChars (.int n) := rfl
  match fuel with
  | fuel + 1 =>
    rw [hchars, valueAt?_of_goes (goes_numberChars (.int n) rest), hnumeral]
    simp only [Option.map_some, hvalue]
    rfl

/-- Items that are read in their places are read one after the other. -/
theorem itemsAt?_items : ∀ (xs : List Json) (fuel : Nat) (rest : List Char), xs ≠ [] →
    (∀ x ∈ xs, x.Readable) → 2 * (itemChars xs).length + 3 ≤ fuel →
      itemsAt? fuel (itemChars xs ++ ']' :: rest) = some (documents xs, rest)
  | [], _, _, hne, _, _ => absurd rfl hne
  | [x], fuel + 1, rest, _, hxs, hfuel => by
    have hvalue := hxs x List.mem_cons_self (not_goes_cons (c := ']') rfl rest)
      (show 2 * x.chars.length + 2 ≤ fuel by
        have hlength : (itemChars [x]).length = x.chars.length := rfl
        omega)
    have hchars : itemChars [x] = chars x := rfl
    rw [hchars, Document.itemsAt?.eq_def]
    simp only [hvalue, skipSpace_cons (show Document.isSpace ']' = false from rfl)]
    rfl
  | x :: y :: more, fuel + 1, rest, _, hxs, hfuel => by
    have hlength : (itemChars (x :: y :: more)).length =
        x.chars.length + 1 + (itemChars (y :: more)).length := by
      show (chars x ++ ',' :: itemChars (y :: more)).length = _
      rw [List.length_append, List.length_cons]
      omega
    have hchars : itemChars (x :: y :: more) ++ ']' :: rest =
        chars x ++ ',' :: (itemChars (y :: more) ++ ']' :: rest) := by
      show chars x ++ ',' :: itemChars (y :: more) ++ ']' :: rest = _
      simp
    have hvalue := hxs x List.mem_cons_self
      (not_goes_cons (c := ',') rfl (itemChars (y :: more) ++ ']' :: rest))
      (show 2 * x.chars.length + 2 ≤ fuel by omega)
    have hitems := itemsAt?_items (y :: more) fuel rest (List.cons_ne_nil _ _)
      (fun z hz => hxs z (List.mem_cons_of_mem x hz)) (by omega)
    rw [hchars, Document.itemsAt?.eq_def]
    simp only [hvalue, skipSpace_cons (show Document.isSpace ',' = false from rfl), hitems,
      Option.map_some]
    rfl

theorem readable_array {xs : List Json} (hxs : ∀ x ∈ xs, x.Readable) : Readable (.array xs) := by
  intro fuel rest _ hfuel
  match fuel, xs with
  | fuel + 1, [] => rfl
  | fuel + 1, x :: xs =>
    have hchars : chars (.array (x :: xs)) ++ rest =
        '[' :: (itemChars (x :: xs) ++ ']' :: rest) := by
      show '[' :: itemChars (x :: xs) ++ [']'] ++ rest = _
      simp
    have hlength : (chars (.array (x :: xs))).length = (itemChars (x :: xs)).length + 2 := by
      show ('[' :: itemChars (x :: xs) ++ [']']).length = _
      simp
    have hitems := itemsAt?_items (x :: xs) fuel rest (List.cons_ne_nil _ _) hxs
      (by omega)
    obtain ⟨c, cs, hhead, hspace, hbracket⟩ := itemChars_head x xs (']' :: rest)
    rw [hhead] at hitems
    rw [hchars, hhead, Document.valueAt?.eq_def]
    simp [skipSpace_cons (show Document.isSpace '[' = false from rfl), skipSpace_cons hspace,
      hbracket, hitems, document]

/-- Members whose values are read in their places are read one after the other. -/
theorem membersAt?_members : ∀ (es : List (String × Json)) (fuel : Nat) (rest : List Char),
    es ≠ [] → (∀ e ∈ es, e.2.Readable) → 2 * (memberChars es).length + 3 ≤ fuel →
      membersAt? fuel (memberChars es ++ '\x7d' :: rest) = some (memberDocuments es, rest)
  | [], _, _, hne, _, _ => absurd rfl hne
  | (key, x) :: es, fuel + 1, rest, _, hes, hfuel => by
    have hx : x.Readable := hes (key, x) List.mem_cons_self
    have hlength : (memberChars ((key, x) :: es) ++ '\x7d' :: rest).length =
        (memberChars ((key, x) :: es)).length + 1 + rest.length := by
      rw [List.length_append, List.length_cons]
      omega
    rw [memberChars_cons] at hlength ⊢
    rw [Document.membersAt?.eq_def]
    simp only [skipSpace_cons (show Document.isSpace '"' = false from rfl),
      skipSpace_cons (show Document.isSpace ':' = false from rfl), text?_stringChars]
    simp only [List.length_cons, List.length_append] at hlength
    cases es with
    | nil =>
      dsimp only at hlength ⊢
      have hvalue := hx (not_goes_cons (c := '\x7d') rfl rest)
        (show 2 * x.chars.length + 2 ≤ fuel by
          simp only [List.length_cons] at hlength
          omega)
      simp only [hvalue, skipSpace_cons (show Document.isSpace '\x7d' = false from rfl)]
      rfl
    | cons e more =>
      dsimp only at hlength ⊢
      simp only [List.length_cons, List.length_append] at hlength
      have hvalue := hx (not_goes_cons (c := ',') rfl (memberChars (e :: more) ++ '\x7d' :: rest))
        (show 2 * x.chars.length + 2 ≤ fuel by omega)
      have hmembers := membersAt?_members (e :: more) fuel rest
        (List.cons_ne_nil _ _) (fun e' he => hes e' (List.mem_cons_of_mem _ he)) (by omega)
      simp only [hvalue, skipSpace_cons (show Document.isSpace ',' = false from rfl), hmembers,
        Option.map_some]
      rfl

theorem readable_object {es : List (String × Json)} (hes : ∀ e ∈ es, e.2.Readable) :
    Readable (.object es) := by
  intro fuel rest _ hfuel
  match fuel, es with
  | fuel + 1, [] => rfl
  | fuel + 1, (key, x) :: es =>
    have hchars : chars (.object ((key, x) :: es)) ++ rest =
        '\x7b' :: (memberChars ((key, x) :: es) ++ '\x7d' :: rest) := by
      show '\x7b' :: memberChars ((key, x) :: es) ++ ['\x7d'] ++ rest = _
      simp
    have hlength : (chars (.object ((key, x) :: es))).length =
        (memberChars ((key, x) :: es)).length + 2 := by
      show ('\x7b' :: memberChars ((key, x) :: es) ++ ['\x7d']).length = _
      simp
    have hmembers := membersAt?_members ((key, x) :: es) fuel rest
      (List.cons_ne_nil _ _) hes (by omega)
    have hhead := memberChars_cons key x es ('\x7d' :: rest)
    rw [hhead] at hmembers
    rw [hchars, hhead, Document.valueAt?.eq_def]
    simp [skipSpace_cons (show Document.isSpace '\x7b' = false from rfl),
      skipSpace_cons (show Document.isSpace '"' = false from rfl), hmembers, document]

theorem not_goes_nil : ¬Goes [] := by
  rintro ⟨c, rest, heq, _⟩
  cases heq

/-- A value that is read in its place is read where its text is all there is. -/
theorem ofChars?_of_readable {j : Json} (h : j.Readable) :
    Document.ofChars? j.chars = some j.document := by
  have hvalue := h not_goes_nil (Nat.le_refl _)
  rw [List.append_nil] at hvalue
  unfold Document.ofChars?
  rw [hvalue]
  rfl

/-! ## Values that are read back -/

/-- The text written for the value is read as the value. -/
def ReadsBack (j : Json) : Prop := Decoder.json.ofText? j.compact = some j

/-- What is read where the text of a value is all there is, is read wherever it stands. -/
theorem readable_of_ofChars? {j : Json} (h : Document.ofChars? j.chars = some j.document) :
    j.Readable := by
  unfold Document.ofChars? at h
  split at h
  · next d r hvalue =>
    split at h
    · next hblank =>
      cases h
      -- only a number could be left over, and what is left over is blank
      have hleft : r = [] := by
        have hplace : valueAt? (2 * j.chars.length + 2) (j.chars ++ []) = some (j.document, r) := by
          rw [List.append_nil]
          exact hvalue
        refine (valueAt?_chars j not_goes_nil hplace).1.resolve_right ?_
        intro hgoes
        rw [skipSpace_of_goes hgoes] at hblank
        obtain ⟨c, rest, rfl, _⟩ := hgoes
        cases hblank
      subst hleft
      intro fuel rest hrest hfuel
      exact Document.valueAt?_append hrest hfuel hvalue
    · cases h
  · cases h

theorem readsBack_iff {j : Json} :
    j.ReadsBack ↔ j.Readable ∧ j.document.value? = some j ∧
      j.document.depth < Decoder.textRoom := by
  have htext : j.compact.toList = j.chars := String.toList_ofList
  unfold ReadsBack Decoder.ofText? Document.read?
  rw [htext]
  constructor
  · intro h
    obtain ⟨d, hread, hd⟩ := Option.bind_eq_some_iff.1 h
    unfold Decoder.json at hd
    split at hd
    · next hdepth =>
      have heq := Document.Says.eq_document j (ofChars?_chars hread) hd
      subst heq
      exact ⟨readable_of_ofChars? hread, hd, hdepth⟩
    · cases hd
  · rintro ⟨hreadable, hvalue, hdepth⟩
    rw [ofChars?_of_readable hreadable, Option.bind_some]
    exact (if_pos hdepth).trans hvalue

end Json
end ProcessMigration
