import ProcessMigration.Json.Printer
import ProcessMigration.Json.Reader
import ProcessMigration.Proofs.Digits

/-!
# What is read from a written number

A number is written with characters that cannot stand behind a value, so the reader stops where the
number ends.

* `Json.Leaves`: a reader of numbers takes off characters of numbers only;
* `Document.numeral?_append`: what is read of a number does not depend on what follows;
* `Json.numeral?_intChars`: a written whole number is read as no other one, and
  `Json.numeral?_int`: one of 64 bits is read;
* `Json.isNumeral_of_mem_numberChars`: a double, too, is written with characters of numbers.
-/

namespace ProcessMigration

namespace Json

open Document (numeral?)

/-! ## Characters of numbers -/

/-- The characters that numbers are written with. -/
def isNumeral (c : Char) : Bool :=
  c.isDigit || c = '-' || c = '+' || c = '.' || c = 'e' || c = 'E'

/-- A number begins here, or goes on. -/
def Goes (cs : List Char) : Prop := ∃ c rest, cs = c :: rest ∧ isNumeral c = true

/-- What is left behind a number: only characters of numbers have been taken off. -/
def Leaves (cs rest : List Char) : Prop :=
  ∃ taken, cs = taken ++ rest ∧ ∀ c ∈ taken, isNumeral c = true

namespace Leaves

variable {cs cs' rest : List Char}

theorem refl (cs : List Char) : Leaves cs cs := ⟨[], rfl, by simp⟩

theorem trans (h : Leaves cs cs') (h' : Leaves cs' rest) : Leaves cs rest := by
  obtain ⟨taken, rfl, htaken⟩ := h
  obtain ⟨taken', rfl, htaken'⟩ := h'
  refine ⟨taken ++ taken', by simp, ?_⟩
  intro c hc
  rcases List.mem_append.1 hc with hc | hc
  · exact htaken c hc
  · exact htaken' c hc

theorem cons {c : Char} (hc : isNumeral c = true) (h : Leaves cs rest) :
    Leaves (c :: cs) rest := by
  refine trans ⟨[c], rfl, ?_⟩ h
  intro d hd
  rw [List.mem_singleton.1 hd]
  exact hc

theorem digitRun (cs : List Char) : Leaves cs (Document.digitRun cs).2 := by
  refine ⟨cs.takeWhile Char.isDigit, List.takeWhile_append_dropWhile.symm, ?_⟩
  intro c hc
  have hdigit := List.all_eq_true.1 List.all_takeWhile c hc
  simp [isNumeral, hdigit]

theorem digits1? {ds : List Nat} (h : Document.digits1? cs = some (ds, rest)) :
    Leaves cs rest := by
  have hrun := digitRun cs
  unfold Document.digits1? at h
  split at h
  · cases h
  · rw [Option.some.inj h] at hrun
    exact hrun

theorem whole? {ds : List Nat} (h : Document.whole? cs = some (ds, rest)) : Leaves cs rest := by
  have hrun := digitRun cs
  unfold Document.whole? at h
  split at h
  · cases h
  · cases h
  · rw [Option.some.inj h] at hrun
    exact hrun

theorem fraction? {f : Option (List Nat)} (h : Document.fraction? cs = some (f, rest)) :
    Leaves cs rest := by
  unfold Document.fraction? at h
  split at h
  · next cs' =>
    obtain ⟨⟨ds, rest'⟩, hdigits, heq⟩ := Option.map_eq_some_iff.1 h
    cases heq
    exact cons rfl (digits1? hdigits)
  · cases h
    exact refl _

theorem exponentDigits? {negative : Bool} {e : Option Int}
    (h : Document.exponentDigits? negative cs = some (e, rest)) : Leaves cs rest := by
  unfold Document.exponentDigits? at h
  obtain ⟨⟨ds, rest'⟩, hdigits, heq⟩ := Option.map_eq_some_iff.1 h
  cases heq
  exact digits1? hdigits

theorem signedExponent? {e : Option Int} (h : Document.signedExponent? cs = some (e, rest)) :
    Leaves cs rest := by
  unfold Document.signedExponent? at h
  split at h
  · exact cons rfl (exponentDigits? h)
  · exact cons rfl (exponentDigits? h)
  · exact exponentDigits? h

theorem exponent? {e : Option Int} (h : Document.exponent? cs = some (e, rest)) :
    Leaves cs rest := by
  unfold Document.exponent? at h
  split at h
  · exact cons rfl (signedExponent? h)
  · exact cons rfl (signedExponent? h)
  · cases h
    exact refl _

theorem unsigned? {negative : Bool} {n : Numeral}
    (h : Document.unsigned? negative cs = some (n, rest)) : Leaves cs rest := by
  unfold Document.unsigned? at h
  obtain ⟨⟨w, cs₁⟩, hwhole, h⟩ := Option.bind_eq_some_iff.1 h
  obtain ⟨⟨f, cs₂⟩, hfraction, h⟩ := Option.bind_eq_some_iff.1 h
  obtain ⟨⟨e, cs₃⟩, hexponent, h⟩ := Option.bind_eq_some_iff.1 h
  cases h
  exact ((whole? hwhole).trans (fraction? hfraction)).trans (exponent? hexponent)

theorem numeral? {n : Numeral} (h : Document.numeral? cs = some (n, rest)) : Leaves cs rest := by
  unfold Document.numeral? at h
  split at h
  · exact cons rfl (unsigned? h)
  · exact unsigned? h

/-- What is left of a written number is nothing of it, or begins inside it. -/
theorem append {text : List Char} (h : Leaves (text ++ cs) rest)
    (htext : ∀ c ∈ text, isNumeral c = true) (hcs : ¬Goes cs) : rest = cs ∨ Goes rest := by
  obtain ⟨taken, heq, htaken⟩ := h
  rcases List.append_eq_append_iff.1 heq with ⟨more, rfl, rfl⟩ | ⟨more, rfl, rfl⟩
  · cases more with
    | nil => exact .inl rfl
    | cons c more => exact absurd ⟨c, _, rfl, htaken c (by simp)⟩ hcs
  · cases more with
    | nil => exact .inl rfl
    | cons c more => exact .inr ⟨c, _, rfl, htext c (by simp)⟩

end Leaves

/-! ## Numbers in front of something -/

theorem not_goes_of_head {rest : List Char} (h : ¬Goes rest) {c : Char} (hc : c ∈ rest.head?) :
    isNumeral c = false := by
  obtain ⟨tail, rfl⟩ := List.head?_eq_some_iff.1 hc
  apply Bool.eq_false_iff.2
  intro hnumeral
  exact h ⟨c, tail, rfl, hnumeral⟩

theorem digitRun_append {ds rest : List Char} (hds : ∀ c ∈ ds, c.isDigit = true)
    (hrest : ¬Goes rest) :
    Document.digitRun (ds ++ rest) = (ds.map Document.digit, rest) := by
  have hhead : ∀ c ∈ rest.head?, c.isDigit = false := by
    intro c hc
    have h := not_goes_of_head hrest hc
    simp only [isNumeral, Bool.or_eq_false_iff] at h
    exact h.1.1.1.1.1
  unfold Document.digitRun
  rw [List.takeWhile_append_of_pos hds, List.dropWhile_append_of_pos hds]
  cases rest with
  | nil => simp
  | cons c rest => simp [hhead c rfl]

end Json

namespace Document

open Json (Goes)

variable {cs rest : List Char}

/-- What a reader leaves, with more behind it. -/
def before {α : Type} (rest : List Char) (p : α × List Char) : α × List Char := (p.1, p.2 ++ rest)

theorem digitRun_append (hrest : ¬Goes rest) (cs : List Char) :
    digitRun (cs ++ rest) = before rest (digitRun cs) := by
  induction cs with
  | nil =>
    have hnone : digitRun ([] ++ rest) = ([], rest) :=
      Json.digitRun_append (fun c hc => by cases hc) hrest
    exact hnone
  | cons c cs ih =>
    unfold digitRun before at ih ⊢
    rw [Prod.mk.injEq] at ih
    rw [List.cons_append, List.takeWhile_cons, List.dropWhile_cons, List.takeWhile_cons,
      List.dropWhile_cons]
    split
    · rw [List.map_cons, List.map_cons, ih.1, ih.2]
    · rfl

theorem digits1?_append (hrest : ¬Goes rest) (cs : List Char) :
    digits1? (cs ++ rest) = (digits1? cs).map (before rest) := by
  unfold digits1?
  rw [digitRun_append hrest]
  obtain ⟨ds, r⟩ := digitRun cs
  cases ds <;> rfl

theorem whole?_append (hrest : ¬Goes rest) (cs : List Char) :
    whole? (cs ++ rest) = (whole? cs).map (before rest) := by
  unfold whole?
  rw [digitRun_append hrest]
  obtain ⟨ds, r⟩ := digitRun cs
  match ds with
  | [] => rfl
  | 0 :: _ :: _ => rfl
  | [0] => rfl
  | (_ + 1) :: _ => rfl

theorem exponentDigits?_append (hrest : ¬Goes rest) (negative : Bool) (cs : List Char) :
    exponentDigits? negative (cs ++ rest) = (exponentDigits? negative cs).map (before rest) := by
  unfold exponentDigits?
  rw [digits1?_append hrest, Option.map_map, Option.map_map]
  rfl

theorem fraction?_append (hrest : ¬Goes rest) (cs : List Char) :
    fraction? (cs ++ rest) = (fraction? cs).map (before rest) := by
  unfold fraction?
  match cs with
  | [] =>
    rw [List.nil_append]
    split
    · exact absurd ⟨'.', _, rfl, rfl⟩ hrest
    · rfl
  | c :: cs =>
    rw [List.cons_append]
    by_cases hc : c = '.'
    · subst hc
      simp only [digits1?_append hrest, Option.map_map]
      rfl
    · simp [hc, before]

theorem signedExponent?_append (hrest : ¬Goes rest) (cs : List Char) :
    signedExponent? (cs ++ rest) = (signedExponent? cs).map (before rest) := by
  have hdigits := exponentDigits?_append hrest
  unfold signedExponent?
  match cs with
  | [] =>
    rw [List.nil_append]
    split
    · exact absurd ⟨'+', _, rfl, rfl⟩ hrest
    · exact absurd ⟨'-', _, rfl, rfl⟩ hrest
    · exact hdigits false []
  | c :: cs =>
    rw [List.cons_append]
    by_cases hplus : c = '+'
    · subst hplus
      exact hdigits false cs
    by_cases hminus : c = '-'
    · subst hminus
      exact hdigits true cs
    · have hplain := hdigits false (c :: cs)
      rw [List.cons_append] at hplain
      simpa [hplus, hminus] using hplain

theorem exponent?_append (hrest : ¬Goes rest) (cs : List Char) :
    exponent? (cs ++ rest) = (exponent? cs).map (before rest) := by
  have hsigned := signedExponent?_append hrest
  unfold exponent?
  match cs with
  | [] =>
    rw [List.nil_append]
    split
    · exact absurd ⟨'e', _, rfl, rfl⟩ hrest
    · exact absurd ⟨'E', _, rfl, rfl⟩ hrest
    · rfl
  | c :: cs =>
    rw [List.cons_append]
    by_cases hsmall : c = 'e'
    · subst hsmall
      exact hsigned cs
    by_cases hlarge : c = 'E'
    · subst hlarge
      exact hsigned cs
    · simp [hsmall, hlarge, before]

theorem unsigned?_append (hrest : ¬Goes rest) (negative : Bool) (cs : List Char) :
    unsigned? negative (cs ++ rest) = (unsigned? negative cs).map (before rest) := by
  unfold unsigned?
  rw [whole?_append hrest]
  cases whole? cs with
  | none => rfl
  | some p =>
    obtain ⟨w, cs₁⟩ := p
    simp only [Option.map_some, before, Option.bind_eq_bind, Option.bind_some]
    rw [fraction?_append hrest]
    cases fraction? cs₁ with
    | none => rfl
    | some p =>
      obtain ⟨f, cs₂⟩ := p
      simp only [Option.map_some, before, Option.bind_some]
      rw [exponent?_append hrest]
      cases exponent? cs₂ <;> rfl

theorem numeral?_cons {c : Char} (hc : c ≠ '-') (cs : List Char) :
    numeral? (c :: cs) = unsigned? false (c :: cs) := by
  simp [numeral?, hc]

/-- What is read of a number does not depend on what follows. -/
theorem numeral?_append (hrest : ¬Goes rest) {n : Numeral} {r : List Char}
    (h : numeral? cs = some (n, r)) : numeral? (cs ++ rest) = some (n, r ++ rest) := by
  have hunsigned : ∀ negative cs, unsigned? negative cs = some (n, r) →
      unsigned? negative (cs ++ rest) = some (n, r ++ rest) := by
    intro negative cs h
    rw [unsigned?_append hrest, h]
    rfl
  unfold numeral? at h
  split at h
  · exact hunsigned true _ h
  · next hminus =>
    have heq : numeral? (cs ++ rest) = unsigned? false (cs ++ rest) := by
      cases cs with
      | nil => cases h
      | cons c cs =>
        have hc : c ≠ '-' := fun hc => hminus cs (by rw [hc])
        exact numeral?_cons hc _
    rw [heq]
    exact hunsigned false _ h

end Document

namespace Json

open Document (numeral?)

/-! ## Whole numbers -/

/-- A number other than zero is written without a leading zero. -/
theorem toDigits_head (n : Nat) (hn : n ≠ 0) :
    ∃ c cs, Nat.toDigits 10 n = c :: cs ∧ Document.digit c ≠ 0 := by
  induction n using Nat.strongRecOn with
  | ind n ih =>
    by_cases hsmall : n < 10
    · refine ⟨Nat.digitChar n, [], Nat.toDigits_of_lt_base hsmall, ?_⟩
      have hdigit : ∀ k < 10, Document.digit (Nat.digitChar k) = k := by decide
      rw [hdigit n hsmall]
      exact hn
    · obtain ⟨c, cs, heq, hc⟩ := ih (n / 10) (by omega) (by omega)
      refine ⟨c, cs ++ [Nat.digitChar (n % 10)], ?_, hc⟩
      rw [Nat.toDigits_of_base_le (by omega) (by omega), heq, List.cons_append]

/-- Digits after which no number goes on are read as the whole of a number. -/
theorem unsigned?_toDigits {rest : List Char} (hrest : ¬Goes rest) {negative : Bool} {k : Nat} :
    Document.unsigned? negative (Nat.toDigits 10 k ++ rest) =
      some (⟨negative, (Nat.toDigits 10 k).map Document.digit, none, none⟩, rest) := by
  have hdigits : ∀ c ∈ Nat.toDigits 10 k, c.isDigit = true := by
    intro c hc
    exact Nat.isDigit_of_mem_toDigits (by omega) (by omega) hc
  have hwhole : Document.whole? (Nat.toDigits 10 k ++ rest) =
      some ((Nat.toDigits 10 k).map Document.digit, rest) := by
    unfold Document.whole?
    rw [digitRun_append hdigits hrest]
    by_cases hk : k = 0
    · subst hk
      rfl
    · obtain ⟨c, cs, heq, hc⟩ := toDigits_head k hk
      rw [heq, List.map_cons]
      split
      · next h => cases h
      · next h => exact absurd (List.cons.inj (congrArg Prod.fst h)).1 hc
      · rfl
  -- nothing of a fraction or an exponent follows
  have hfraction : Document.fraction? rest = some (none, rest) :=
    Document.fraction?_append hrest []
  have hexponent : Document.exponent? rest = some (none, rest) :=
    Document.exponent?_append hrest []
  unfold Document.unsigned?
  simp [hwhole, hfraction, hexponent]

/-- Where digits begin there is no sign. -/
theorem numeral?_toDigits (k : Nat) (rest : List Char) :
    numeral? (Nat.toDigits 10 k ++ rest) =
      Document.unsigned? false (Nat.toDigits 10 k ++ rest) := by
  obtain ⟨c, cs, heq⟩ := List.exists_cons_of_ne_nil (Nat.toDigits_ne_nil (b := 10) (n := k))
  have hc : c.isDigit = true :=
    Nat.isDigit_of_mem_toDigits (n := k) (by omega : 0 < 10) (by omega) (by simp [heq])
  have hminus : c ≠ '-' := by
    rintro rfl
    cases hc
  rw [heq, List.cons_append]
  exact Document.numeral?_cons hminus _

/-- Digits without fraction and exponent are no other whole number than theirs. -/
theorem eq_of_value?_toDigits {negative : Bool} {k : Nat} {n : Int}
    (h : (Numeral.mk negative ((Nat.toDigits 10 k).map Document.digit) none none).value? =
      some (.int n)) : n = if negative then -(k : Int) else k := by
  cases negative with
  | false =>
    simp only [Numeral.value?, Numeral.ofDigits_toDigits, Bool.false_eq_true, if_false] at h
    split at h
    · cases h
      rfl
    · obtain ⟨x, _, hx⟩ := Option.map_eq_some_iff.1 h
      cases hx
  | true =>
    simp only [Numeral.value?, Numeral.ofDigits_toDigits, if_true] at h
    split at h
    · cases h
      rfl
    · obtain ⟨x, _, hx⟩ := Option.map_eq_some_iff.1 h
      cases hx

/-- A written whole number is read as no other one. -/
theorem numeral?_intChars {n : Int} {rest rest' : List Char} {m : Numeral} (hrest : ¬Goes rest)
    (h : numeral? ((toString n).toList ++ rest) = some (m, rest')) :
    rest' = rest ∧ ∀ k, m.value? = some (.int k) → k = n := by
  rw [Int.toString_eq_repr, Int.repr_eq_if] at h
  by_cases hn : 0 ≤ n
  · rw [if_pos hn, Nat.toList_repr, numeral?_toDigits, unsigned?_toDigits hrest] at h
    cases h
    exact ⟨rfl, fun k hk => (eq_of_value?_toDigits hk).trans (Int.toNat_of_nonneg hn)⟩
  · rw [if_neg hn, String.toList_append, Nat.toList_repr] at h
    have hunsigned : Document.unsigned? true (Nat.toDigits 10 (-n).toNat ++ rest) =
        some (m, rest') := h
    rw [unsigned?_toDigits hrest] at hunsigned
    cases hunsigned
    refine ⟨rfl, ?_⟩
    intro k hk
    have heq : k = -((-n).toNat : Int) := eq_of_value?_toDigits hk
    omega

/-- A whole number of 64 bits is read as it was written. -/
theorem numeral?_int {n : Int} (hlow : -2 ^ 63 ≤ n) (hhigh : n < 2 ^ 64) {rest : List Char}
    (hrest : ¬Goes rest) :
    ∃ m, numeral? (numberChars (.int n) ++ rest) = some (m, rest) ∧ m.value? = some (.int n) := by
  show ∃ m, numeral? ((toString n).toList ++ rest) = some (m, rest) ∧ _
  rw [Int.toString_eq_repr, Int.repr_eq_if]
  by_cases hn : 0 ≤ n
  · rw [if_pos hn, Nat.toList_repr]
    refine ⟨_, (numeral?_toDigits _ _).trans (unsigned?_toDigits hrest), ?_⟩
    have hsmall : n.toNat < Numeral.significandLimit := by
      unfold Numeral.significandLimit
      omega
    have hback : (n.toNat : Int) = n := by omega
    simp [Numeral.value?, Numeral.ofDigits_toDigits, hsmall, hback]
  · rw [if_neg hn, String.toList_append, Nat.toList_repr]
    refine ⟨_, unsigned?_toDigits hrest, ?_⟩
    have hsmall : 0 < (-n).toNat ∧ (-n).toNat ≤ 0x8000000000000000 := by omega
    have hback : -((-n).toNat : Int) = n := by omega
    simp only [Numeral.value?, Numeral.ofDigits_toDigits, if_true, hsmall, and_self, hback]

/-! ## Numbers of both kinds -/

theorem isNumeral_of_isDigit {c : Char} (h : c.isDigit = true) : isNumeral c = true := by
  simp [isNumeral, h]

theorem isNumeral_of_mem_toDigits {n : Nat} {c : Char} (h : c ∈ Nat.toDigits 10 n) :
    isNumeral c = true :=
  isNumeral_of_isDigit (Nat.isDigit_of_mem_toDigits (by omega) (by omega) h)

theorem isNumeral_of_mem_replicate {n : Nat} {c : Char} (h : c ∈ List.replicate n '0') :
    isNumeral c = true := by
  rw [List.eq_of_mem_replicate h]
  rfl

theorem isNumeral_of_mem_layoutText {m : Decimal.Magnitude} {c : Char}
    (h : c ∈ (doubleLayout.text m).toList) : isNumeral c = true := by
  have hdigits : ∀ c ∈ Nat.toDigits 10 m.digits, isNumeral c = true := by
    intro c hc
    exact isNumeral_of_mem_toDigits hc
  unfold Decimal.Layout.text at h
  dsimp only at h
  split at h
  · -- without an exponent: the point behind the digits, within them or in front of them
    split at h
    · simp only [String.toList_append, String.toList_ofList, List.mem_append] at h
      rcases h with (h | h) | h
      · exact hdigits c h
      · exact isNumeral_of_mem_replicate h
      · exact List.all_eq_true.1 (by decide : doubleLayout.wholeEnding.toList.all isNumeral = true) c h
    · split at h
      · simp only [String.toList_ofList, List.mem_append, List.mem_cons] at h
        rcases h with h | rfl | h
        · exact hdigits c (List.mem_of_mem_take h)
        · rfl
        · exact hdigits c (List.mem_of_mem_drop h)
      · simp only [String.toList_ofList, List.cons_append, List.mem_append, List.mem_cons] at h
        rcases h with rfl | rfl | h | h
        · rfl
        · rfl
        · exact isNumeral_of_mem_replicate h
        · exact hdigits c h
  · -- with an exponent: one digit in front of the point, the mark and a whole number
    simp only [String.toList_append, String.toList_ofList, List.mem_append] at h
    rcases h with (h | h) | h
    · split at h
      · next d hd => exact hdigits c (hd ▸ h)
      · next d rest hd hne =>
        rcases List.mem_cons.1 h with rfl | h
        · exact hdigits c (hne ▸ List.mem_cons_self)
        · rcases List.mem_cons.1 h with rfl | h
          · rfl
          · exact hdigits c (hne ▸ List.mem_cons_of_mem _ h)
      · cases h
    · split at h
      · exact List.all_eq_true.1
          (by decide : doubleLayout.negativeExponentMark.toList.all isNumeral = true) c h
      · exact List.all_eq_true.1 (by decide : doubleLayout.exponentMark.toList.all isNumeral = true) c h
    · rw [show toString _ = Nat.repr _ from rfl, Nat.toList_repr] at h
      exact isNumeral_of_mem_toDigits h

/-- A number is written with characters of numbers only. -/
theorem isNumeral_of_mem_numberChars {n : Number} {c : Char} (h : c ∈ numberChars n) :
    isNumeral c = true := by
  cases n with
  | int n =>
    have htext : c ∈ (toString n).toList := h
    rw [Int.toString_eq_repr, Int.repr_eq_if] at htext
    split at htext
    · rw [Nat.toList_repr] at htext
      exact isNumeral_of_mem_toDigits htext
    · rw [String.toList_append, Nat.toList_repr] at htext
      rcases List.mem_append.1 htext with h | h
      · exact List.all_eq_true.1 (by decide : "-".toList.all isNumeral = true) c h
      · exact isNumeral_of_mem_toDigits h
  | double x =>
    unfold numberChars Decimal.Layout.render at h
    have hsign : ∀ c ∈ (if x.negative then "-" else "").toList, isNumeral c = true := by
      cases x.negative with
      | false => exact fun c hc => List.all_eq_true.1 (by decide : "".toList.all isNumeral = true) c hc
      | true => exact fun c hc => List.all_eq_true.1 (by decide : "-".toList.all isNumeral = true) c hc
    dsimp only at h
    split at h
    · rw [String.toList_append, String.toList_append, List.append_assoc, List.mem_append] at h
      rcases h with h | h
      · exact hsign c h
      · exact List.all_eq_true.1
          (by decide : ("0".toList ++ doubleLayout.wholeEnding.toList).all isNumeral = true) c h
    · rw [String.toList_append, List.mem_append] at h
      rcases h with h | h
      · exact hsign c h
      · exact isNumeral_of_mem_layoutText h

theorem numberChars_ne_nil (n : Number) : numberChars n ≠ [] := by
  cases n with
  | int n =>
    show (toString n).toList ≠ []
    rw [Int.toString_eq_repr, Int.repr_eq_if]
    split
    · rw [Nat.toList_repr]
      exact Nat.toDigits_ne_nil
    · simp
  | double x =>
    have htext : ∀ m, (doubleLayout.text m).toList ≠ [] := by
      intro m
      unfold Decimal.Layout.text
      dsimp only
      split
      · split
        · simp [doubleLayout]
        · split <;> simp
      · simp [Nat.toDigits_ne_nil, Nat.toList_repr]
    show (doubleLayout.render x).toList ≠ []
    unfold Decimal.Layout.render
    dsimp only
    split
    · simp
    · have := htext (Decimal.shortest x.code)
      simpa using fun _ => this

end Json
end ProcessMigration
