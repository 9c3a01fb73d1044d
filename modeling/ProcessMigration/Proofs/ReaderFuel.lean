import ProcessMigration.Proofs.JsonReading

/-!
# The fuel of the readers

Every value takes a character from the front at least, and a reader calls itself twice for a character
at most: two units of fuel for each character that is taken suffice. What a text says therefore depends
on its characters only.

* `Document.valueAt?_fuel`, with its companions for items and members: what is read with any fuel is
  read with two units for each character taken;
* `Document.ofChars?_of_blanks`: blanks in front of a text change nothing;
* `Document.ofChars?_append_none`: a text with another one right behind it says nothing.
-/

namespace ProcessMigration.Document

open Json (Goes Leaves)

variable {cs r : List Char}

/-! ## What is taken from the front -/

theorem length_skipSpace_le (cs : List Char) : (skipSpace cs).length ≤ cs.length :=
  (List.dropWhile_sublist _).length_le

/-- A character that stands behind blanks was there. -/
theorem length_lt_of_skipSpace {c : Char} {more : List Char} (h : skipSpace cs = c :: more) :
    more.length < cs.length := by
  have hle := length_skipSpace_le cs
  rw [h, List.length_cons] at hle
  exact hle

theorem length_lt_of_pieces? {ps : List Piece} (h : pieces? cs = some (ps, r)) :
    r.length < cs.length := by
  fun_induction pieces? cs generalizing ps r with
  | case1 => cases h
  | case2 cs =>
    cases h
    exact Nat.lt_succ_self _
  | case3 a b c d cs hunit => cases h
  | case4 a b c d cs u hunit ih =>
    obtain ⟨⟨ps', r'⟩, hps, heq⟩ := Option.map_eq_some_iff.1 h
    cases heq
    have hless := ih hps
    simp only [List.length_cons]
    omega
  | case5 e cs hnot hshort => cases h
  | case6 e cs hnot c hshort ih =>
    obtain ⟨⟨ps', r'⟩, hps, heq⟩ := Option.map_eq_some_iff.1 h
    cases heq
    have hless := ih hps
    simp only [List.length_cons]
    omega
  | case7 c cs hquote hunit hshort hcontrol => cases h
  | case8 c cs hquote hunit hshort hcontrol ih =>
    obtain ⟨⟨ps', r'⟩, hps, heq⟩ := Option.map_eq_some_iff.1 h
    cases heq
    exact Nat.lt_succ_of_lt (ih hps)

theorem length_lt_of_text? {s : Option String} (h : text? cs = some (s, r)) :
    r.length < cs.length := by
  obtain ⟨⟨ps, r'⟩, hps, heq⟩ := Option.map_eq_some_iff.1 h
  cases heq
  exact length_lt_of_pieces? hps

theorem length_le_of_leaves (h : Leaves cs r) : r.length ≤ cs.length := by
  obtain ⟨taken, rfl, _⟩ := h
  simp

/-- The whole part of a number has a digit. -/
theorem length_lt_of_whole? {ds : List Nat} (h : whole? cs = some (ds, r)) :
    r.length < cs.length := by
  have hsplit : cs = cs.takeWhile Char.isDigit ++ (digitRun cs).2 :=
    List.takeWhile_append_dropWhile.symm
  have hlength : cs.length = (digitRun cs).1.length + (digitRun cs).2.length := by
    conv_lhs => rw [hsplit]
    rw [List.length_append]
    simp only [digitRun, List.length_map]
  unfold whole? at h
  split at h
  · cases h
  · cases h
  · next hnone _ =>
    have hrun := Option.some.inj h
    rw [hrun] at hlength hnone
    have hds : ds ≠ [] := fun hds => hnone r (by rw [hds])
    have hpos := List.length_pos_iff.2 hds
    dsimp only at hlength
    omega

theorem length_lt_of_unsigned? {negative : Bool} {n : Numeral}
    (h : unsigned? negative cs = some (n, r)) : r.length < cs.length := by
  unfold unsigned? at h
  obtain ⟨⟨w, cs₁⟩, hwhole, h⟩ := Option.bind_eq_some_iff.1 h
  obtain ⟨⟨f, cs₂⟩, hfraction, h⟩ := Option.bind_eq_some_iff.1 h
  obtain ⟨⟨e, cs₃⟩, hexponent, h⟩ := Option.bind_eq_some_iff.1 h
  cases h
  have hless := length_lt_of_whole? hwhole
  have hle := length_le_of_leaves ((Leaves.fraction? hfraction).trans (Leaves.exponent? hexponent))
  exact Nat.lt_of_le_of_lt hle hless

theorem length_lt_of_numeral? {n : Numeral} (h : numeral? cs = some (n, r)) :
    r.length < cs.length := by
  unfold numeral? at h
  split at h
  · exact Nat.lt_succ_of_lt (length_lt_of_unsigned? h)
  · exact length_lt_of_unsigned? h

/-! ## Two units for each character -/

/-- The reader takes characters from the front of `cs` and leaves `r`, and two units of fuel for each
of them suffice to read the same. -/
def Takes {α : Type} (read : Nat → List Char → Option (α × List Char)) (cs : List Char) (a : α)
    (r : List Char) : Prop :=
  r.length < cs.length ∧
    ∀ fuel, 2 * (cs.length - r.length) ≤ fuel → read fuel cs = some (a, r)

theorem takes_of_succ {α : Type} {read : Nat → List Char → Option (α × List Char)} {a : α}
    (hless : r.length < cs.length)
    (h : ∀ fuel, 2 * (cs.length - r.length) ≤ fuel + 1 → read (fuel + 1) cs = some (a, r)) :
    Takes read cs a r := by
  refine ⟨hless, ?_⟩
  intro fuel hfuel
  cases fuel with
  | zero => omega
  | succ fuel => exact h fuel hfuel

mutual

/-- What is read of a value with any fuel is read with two units for each character taken. -/
theorem valueAt?_fuel : ∀ {fuel : Nat} {cs r : List Char} {d : Document},
    valueAt? fuel cs = some (d, r) → Takes valueAt? cs d r
  | 0, _, _, _, h => by cases h
  | fuel + 1, cs, r, d, h => by
    rw [valueAt?.eq_def] at h
    simp only at h
    split at h
    case h_1 heq | h_2 heq | h_3 heq =>
      cases h
      have hless := length_lt_of_skipSpace heq
      simp only [List.length_cons] at hless
      refine takes_of_succ (by omega) ?_
      intro fuel _
      rw [valueAt?.eq_def]
      simp only [heq]
    case h_4 heq =>
      obtain ⟨⟨s, r'⟩, htext, hd⟩ := Option.map_eq_some_iff.1 h
      cases hd
      dsimp only
      have hless := length_lt_of_skipSpace heq
      have htaken := length_lt_of_text? htext
      refine takes_of_succ (by omega) ?_
      intro fuel _
      rw [valueAt?.eq_def]
      simp only [heq, htext, Option.map_some]
    case h_5 inner heq =>
      have hless := length_lt_of_skipSpace heq
      split at h
      · next heq' =>
        cases h
        have hless' := length_lt_of_skipSpace heq'
        refine takes_of_succ (by omega) ?_
        intro fuel _
        rw [valueAt?.eq_def]
        simp only [heq, heq']
      · next hclose =>
        obtain ⟨⟨ds, r'⟩, hitems, hd⟩ := Option.map_eq_some_iff.1 h
        cases hd
        dsimp only
        obtain ⟨htaken, hfuel⟩ := itemsAt?_fuel hitems
        have hle := length_skipSpace_le inner
        refine takes_of_succ (by omega) ?_
        intro fuel hle'
        rw [valueAt?.eq_def]
        simp only [heq, hfuel fuel (by omega), Option.map_some]
    case h_6 inner heq =>
      have hless := length_lt_of_skipSpace heq
      split at h
      · next heq' =>
        cases h
        have hless' := length_lt_of_skipSpace heq'
        refine takes_of_succ (by omega) ?_
        intro fuel _
        rw [valueAt?.eq_def]
        simp only [heq, heq']
      · next hclose =>
        obtain ⟨⟨ms, r'⟩, hmembers, hd⟩ := Option.map_eq_some_iff.1 h
        cases hd
        dsimp only
        obtain ⟨htaken, hfuel⟩ := membersAt?_fuel hmembers
        have hle := length_skipSpace_le inner
        refine takes_of_succ (by omega) ?_
        intro fuel hle'
        rw [valueAt?.eq_def]
        simp only [heq, hfuel fuel (by omega), Option.map_some]
    case h_7 =>
      -- whatever else stands there is read as a number, which needs no fuel
      obtain ⟨⟨n, r'⟩, hnumeral, hd⟩ := Option.map_eq_some_iff.1 h
      cases hd
      dsimp only
      have htaken := length_lt_of_numeral? hnumeral
      have hle := length_skipSpace_le cs
      refine takes_of_succ (by omega) ?_
      intro fuel _
      rw [Json.valueAt?_of_number (goes_of_numeral? hnumeral), hnumeral]
      rfl

/-- So it is with the items of an array. -/
theorem itemsAt?_fuel : ∀ {fuel : Nat} {cs r : List Char} {ds : List Document},
    itemsAt? fuel cs = some (ds, r) → Takes itemsAt? cs ds r
  | 0, _, _, _, h => by cases h
  | fuel + 1, cs, r, ds, h => by
    rw [itemsAt?.eq_def] at h
    simp only at h
    split at h
    · cases h
    · next d r₁ hvalue =>
      obtain ⟨htaken, hfuel⟩ := valueAt?_fuel hvalue
      split at h
      · next heq =>
        obtain ⟨⟨ds', r'⟩, hitems, hd⟩ := Option.map_eq_some_iff.1 h
        cases hd
        dsimp only
        obtain ⟨htaken', hfuel'⟩ := itemsAt?_fuel hitems
        have hless := length_lt_of_skipSpace heq
        refine takes_of_succ (by omega) ?_
        intro fuel hle
        rw [itemsAt?.eq_def]
        simp only [hfuel fuel (by omega), heq, hfuel' fuel (by omega), Option.map_some]
      · next heq =>
        cases h
        have hless := length_lt_of_skipSpace heq
        refine takes_of_succ (by omega) ?_
        intro fuel hle
        rw [itemsAt?.eq_def]
        simp only [hfuel fuel (by omega), heq]
      · cases h

/-- So it is with the members of an object. -/
theorem membersAt?_fuel : ∀ {fuel : Nat} {cs r : List Char}
    {ms : List (Option String × Document)}, membersAt? fuel cs = some (ms, r) →
      Takes membersAt? cs ms r
  | 0, _, _, _, h => by cases h
  | fuel + 1, cs, r, ms, h => by
    rw [membersAt?.eq_def] at h
    simp only at h
    split at h
    · next hquote =>
      split at h
      · cases h
      · next key r₁ htext =>
        split at h
        · next hcolon =>
          split at h
          · cases h
          · next d r₂ hvalue =>
            have hless := length_lt_of_skipSpace hquote
            have htext' := length_lt_of_text? htext
            have hless' := length_lt_of_skipSpace hcolon
            obtain ⟨htaken, hfuel⟩ := valueAt?_fuel hvalue
            split at h
            · next heq =>
              obtain ⟨⟨ms', r'⟩, hmembers, hd⟩ := Option.map_eq_some_iff.1 h
              cases hd
              dsimp only
              obtain ⟨htaken', hfuel'⟩ := membersAt?_fuel hmembers
              have hend := length_lt_of_skipSpace heq
              refine takes_of_succ (by omega) ?_
              intro fuel hle
              rw [membersAt?.eq_def]
              simp only [hquote, htext, hcolon, hfuel fuel (by omega), heq,
                hfuel' fuel (by omega), Option.map_some]
            · next heq =>
              cases h
              have hend := length_lt_of_skipSpace heq
              refine takes_of_succ (by omega) ?_
              intro fuel hle
              rw [membersAt?.eq_def]
              simp only [hquote, htext, hcolon, hfuel fuel (by omega), heq]
            · cases h
        · cases h
    · cases h

end

/-! ## Whole texts -/

theorem skipSpace_of_blanks {blanks : List Char} (h : ∀ c ∈ blanks, isSpace c = true)
    (cs : List Char) : skipSpace (blanks ++ cs) = skipSpace cs :=
  List.dropWhile_append_of_pos h

/-- A value is read from its first character that is no blank on. -/
theorem valueAt?_of_skipSpace {cs' : List Char} (h : skipSpace cs = skipSpace cs') (fuel : Nat) :
    valueAt? fuel cs = valueAt? fuel cs' := by
  cases fuel with
  | zero => rfl
  | succ fuel =>
    rw [valueAt?.eq_def, valueAt?.eq_def]
    simp only [h]

/-- Blanks in front of a text change nothing. -/
theorem ofChars?_of_blanks {blanks : List Char} (h : ∀ c ∈ blanks, isSpace c = true)
    (cs : List Char) : ofChars? (blanks ++ cs) = ofChars? cs := by
  have hread : valueAt? (2 * (blanks ++ cs).length + 2) (blanks ++ cs) =
      valueAt? (2 * cs.length + 2) cs := by
    rw [valueAt?_of_skipSpace (skipSpace_of_blanks h cs), List.length_append]
    apply Option.ext
    rintro ⟨d, r⟩
    -- either amount of fuel is more than two units for each character
    constructor
    · intro hvalue
      exact (valueAt?_fuel hvalue).2 _ (by omega)
    · intro hvalue
      exact (valueAt?_fuel hvalue).2 _ (by omega)
  unfold ofChars?
  rw [hread]

/-- Behind a text that says something no more may stand than blanks. -/
theorem ofChars?_append_none {d : Document} {c : Char} (hread : ofChars? cs = some d)
    (hspace : isSpace c = false) (hnumeral : Json.isNumeral c = false) (rest : List Char) :
    ofChars? (cs ++ c :: rest) = none := by
  unfold ofChars? at hread
  split at hread
  · next d' r hvalue =>
    split at hread
    · next hblank =>
      have hlonger : 2 * cs.length + 2 ≤ 2 * (cs ++ c :: rest).length + 2 := by
        rw [List.length_append]
        omega
      have hvalue' := valueAt?_append (Json.not_goes_cons hnumeral rest) hlonger hvalue
      -- what the first text leaves is blank, so the character that follows is left as well
      have hskip : skipSpace (r ++ c :: rest) = c :: rest := by
        unfold skipSpace at hblank ⊢
        rw [List.dropWhile_append, if_pos hblank, List.dropWhile_cons, hspace]
        rfl
      unfold ofChars?
      rw [hvalue']
      simp [hskip]
    · cases hread
  · cases hread

/-- A text whose first character that is no blank begins no value says nothing. -/
theorem ofChars?_none_of_head {c : Char} {more : List Char} (h : skipSpace cs = c :: more)
    (hc : c ∉ ['n', 't', 'f', '"', '[', '\x7b']) (hnumeral : Json.isNumeral c = false) :
    ofChars? cs = none := by
  have hnumeral? : numeral? (c :: more) = none := by
    cases hread : numeral? (c :: more) with
    | none => rfl
    | some p => exact absurd (goes_of_numeral? hread) (Json.not_goes_cons hnumeral more)
  have hvalue : valueAt? (2 * cs.length + 2) cs = none := by
    rw [valueAt?.eq_def]
    simp only [h]
    split
    case h_7 => rw [hnumeral?]; rfl
    all_goals
      next heq =>
        cases heq
        exact absurd hc (by decide)
  unfold ofChars?
  rw [hvalue]

end ProcessMigration.Document
