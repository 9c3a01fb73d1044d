import Mathlib.Data.List.Basic
import ProcessMigration.Time.Pattern

/-!
# Reading and writing date patterns

A pattern is a sequence of fields, each a percent sign with the characters that belong to it, and of
other characters.

* `Time.Pattern.specifier?_eq_some_iff`: a field is told by the characters that belong to it,
  whatever follows them;
* `Time.Pattern.Reads` says which items stand in a text, and reading a pattern finds them:
  `items?_eq_some_iff`;
* `Time.Pattern.write?_eq_none_iff`: only the permissive offset cannot be written, whatever the time
  is;
* `Time.Pattern.mem_iff_holdsPermissive`: that item stands among the items of a pattern where its
  text has `%#z` in the place of a field.
-/

namespace ProcessMigration.Time.Pattern

/-- The items that stand in a text. -/
inductive Reads : List Char → List PatternItem → Prop
  | nil : Reads [] []
  | field {taken rest : List Char} {its more : List PatternItem}
    (h : specifier? taken = some (its, [])) (hrest : Reads rest more) :
    Reads ('%' :: (taken ++ rest)) (its ++ more)
  | literal {c : Char} {rest : List Char} {more : List PatternItem} (h : c ≠ '%')
    (hrest : Reads rest more) : Reads (c :: rest) (.literal c :: more)

variable {cs ds rest taken : List Char} {its more : List PatternItem} {c : Char}

/-! ## Fields -/

/-- The fields that a point, a colon or a number sign begins have letters of their own. -/
theorem unmarked (h : (padding? c).isSome ∨ (fixedDigits? c).isSome ∨ (numeric? c).isSome ∨
    (named? c).isSome) : c ≠ '#' ∧ c ≠ '.' ∧ c ≠ ':' := by
  refine ⟨?_, ?_, ?_⟩
  all_goals
    rintro rfl
    revert h
    decide

/-- Reading a field takes characters that give the same items before any others. -/
theorem specifier?_takes (h : specifier? cs = some (its, rest)) :
    ∃ taken, cs = taken ++ rest ∧ ∀ others, specifier? (taken ++ others) = some (its, others) := by
  revert h
  -- a field without a mark in front is not taken for one with a mark, whatever is put behind it
  fun_cases specifier? cs
  case case1 =>
    rintro ⟨⟩
    exact ⟨['#', 'z'], rfl, fun _ => rfl⟩
  case case2 =>
    rintro ⟨⟩
    exact ⟨['.', 'f'], rfl, fun _ => rfl⟩
  case case3 c rest hc =>
    intro h
    obtain ⟨n, hn, ⟨⟩⟩ := Option.map_eq_some_iff.1 h
    refine ⟨['.', c, 'f'], rfl, ?_⟩
    intro others
    simp [specifier?, hn]
  case case4 =>
    rintro ⟨⟩
    exact ⟨[':', 'z'], rfl, fun _ => rfl⟩
  case case5 =>
    rintro ⟨⟩
    exact ⟨[':', ':', 'z'], rfl, fun _ => rfl⟩
  case case6 =>
    rintro ⟨⟩
    exact ⟨[':', ':', ':', 'z'], rfl, fun _ => rfl⟩
  case case7 c p hp d rest _ _ _ _ _ _ =>
    intro h
    obtain ⟨x, hx, ⟨⟩⟩ := Option.map_eq_some_iff.1 h
    have hc := unmarked (.inl (Option.isSome_of_eq_some hp))
    refine ⟨[c, d], rfl, ?_⟩
    intro others
    simp [specifier?, hc, hp, hx]
  case case9 c n hn hp rest _ _ _ _ _ _ =>
    rintro ⟨⟩
    have hc := unmarked (.inr (.inl (Option.isSome_of_eq_some hn)))
    refine ⟨[c, 'f'], rfl, ?_⟩
    intro others
    simp [specifier?, hc, hp, hn]
  case case11 c rest _ _ _ _ _ _ hn hp f p hf =>
    rintro ⟨⟩
    have hc := unmarked (.inr (.inr (.inl (Option.isSome_of_eq_some hf))))
    refine ⟨[c], rfl, ?_⟩
    intro others
    simp [specifier?, hc, hp, hn, hf]
  case case12 c rest _ _ _ _ _ _ hn hp hf =>
    intro h
    obtain ⟨its, hits, ⟨⟩⟩ := Option.map_eq_some_iff.1 h
    have hc := unmarked (.inr (.inr (.inr (Option.isSome_of_eq_some hits))))
    refine ⟨[c], rfl, ?_⟩
    intro others
    simp [specifier?, hc, hp, hn, hf, hits]
  -- in the other cases no field is read
  all_goals rintro ⟨⟩

/-- A field that ends a text is read before any other characters. -/
theorem specifier?_append (h : specifier? taken = some (its, [])) (others : List Char) :
    specifier? (taken ++ others) = some (its, others) := by
  obtain ⟨same, htaken, hany⟩ := specifier?_takes h
  rw [List.append_nil] at htaken
  rw [htaken]
  exact hany others

/-- A field is told by the characters that belong to it, whatever follows them. -/
theorem specifier?_eq_some_iff :
    specifier? cs = some (its, rest) ↔
      ∃ taken, specifier? taken = some (its, []) ∧ cs = taken ++ rest := by
  constructor
  case mp =>
    intro h
    obtain ⟨taken, hcs, htaken⟩ := specifier?_takes h
    exact ⟨taken, by simpa using htaken [], hcs⟩
  case mpr =>
    rintro ⟨taken, h, rfl⟩
    exact specifier?_append h rest

/-! ## Patterns -/

/-- What reading finds stands in the text. -/
theorem reads_of_itemsWithin? {fuel : Nat} (h : itemsWithin? fuel cs = some its) :
    Reads cs its := by
  fun_induction itemsWithin? fuel cs generalizing its
  case case1 =>
    cases h
    exact .nil
  case case2 => cases h
  case case3 fuel rest ih =>
    obtain ⟨⟨its, rest⟩, hfield, h⟩ := Option.bind_eq_some_iff.1 h
    obtain ⟨more, hmore, ⟨⟩⟩ := Option.bind_eq_some_iff.1 h
    obtain ⟨taken, htaken, rfl⟩ := specifier?_eq_some_iff.1 hfield
    exact .field htaken (ih _ hmore)
  case case4 fuel c rest hc ih =>
    obtain ⟨more, hmore, ⟨⟩⟩ := Option.map_eq_some_iff.1 h
    exact .literal hc (ih hmore)

/-- What stands in a text is found, within its length. -/
theorem Reads.itemsWithin? (h : Reads cs its) {fuel : Nat} (hfuel : cs.length ≤ fuel) :
    itemsWithin? fuel cs = some its := by
  induction h generalizing fuel with
  | nil => cases fuel <;> rfl
  | @field taken rest its more hfield hrest ih =>
    obtain _ | fuel := fuel
    case zero => cases hfuel
    case succ =>
      have hmore : Pattern.itemsWithin? fuel rest = some more := by
        apply ih
        simp only [List.length_cons, List.length_append] at hfuel
        omega
      simp [Pattern.itemsWithin?, specifier?_append hfield, hmore]
  | literal hc hrest ih =>
    obtain _ | fuel := fuel
    case zero => cases hfuel
    case succ =>
      rw [Pattern.itemsWithin?, ih (Nat.le_of_succ_le_succ hfuel)]
      · rfl
      · exact hc

/-- What stands after a percent sign. -/
theorem Reads.of_percent (h : Reads ('%' :: cs) its) :
    ∃ first rest more, specifier? cs = some (first, rest) ∧ Reads rest more ∧
      its = first ++ more := by
  generalize hds : '%' :: cs = ds at h
  cases h with
  | nil => cases hds
  | @field taken rest first more hfield hrest =>
    rw [List.cons.injEq] at hds
    exact ⟨first, rest, more, hds.2 ▸ specifier?_append hfield rest, hrest, rfl⟩
  | literal hc =>
    rw [List.cons.injEq] at hds
    exact absurd hds.1.symm hc

/-- What stands after another character. -/
theorem Reads.of_ne_percent (h : Reads (c :: cs) its) (hc : c ≠ '%') :
    ∃ more, Reads cs more ∧ its = .literal c :: more := by
  cases h with
  | field => exact absurd rfl hc
  | @literal _ _ more _ hrest => exact ⟨more, hrest, rfl⟩

/-- Reading a pattern finds the items that stand in it. -/
theorem items?_eq_some_iff {pattern : String} :
    items? pattern = some its ↔ Reads pattern.toList its := by
  constructor
  case mp => exact reads_of_itemsWithin?
  case mpr => exact fun h => h.itemsWithin? (Nat.le_refl _)

/-! ## Writing -/

/-- The text of a single item is missing for the permissive offset only. -/
theorem itemText?_eq_none_iff {item : PatternItem} {z : ZonedTime} :
    itemText? z item = none ↔ item = .field .offsetPermissive := by
  cases item with
  | literal => simp [itemText?]
  | number => simp [itemText?]
  | field f => cases f <;> simp [itemText?, fieldText?]

/-- Through items that hold the permissive offset no time can be written, and through all others
every time can. -/
theorem write?_eq_none_iff {z : ZonedTime} :
    write? its z = none ↔ .field .offsetPermissive ∈ its := by
  rw [write?, Option.map_eq_none_iff]
  induction its with
  | nil => simp
  | cons item its ih =>
    rw [List.mapM_cons, List.mem_cons, ← ih]
    cases htext : itemText? z item with
    | none => simp [itemText?_eq_none_iff.1 htext]
    | some text =>
      have hitem : .field .offsetPermissive ≠ item := by
        rintro rfl
        cases htext
      cases hrest : its.mapM (itemText? z) <;> simp [hitem]

/-! ## The permissive offset in a text -/

/-- No letter stands for the permissive offset. -/
theorem named?_plain (h : named? c = some its) : .field .offsetPermissive ∉ its := by
  revert h
  unfold named?
  split
  all_goals
    rintro ⟨⟩
    try decide

/-- The field of the permissive offset is `#z`. -/
theorem mem_specifier?_iff (h : specifier? cs = some (its, rest)) :
    .field .offsetPermissive ∈ its ↔ cs = '#' :: 'z' :: rest := by
  constructor
  case mp =>
    intro hmem
    revert h
    fun_cases specifier? cs
    case case1 =>
      rintro ⟨⟩
      rfl
    case case3 =>
      intro h
      obtain ⟨n, hn, ⟨⟩⟩ := Option.map_eq_some_iff.1 h
      simp at hmem
    case case7 =>
      intro h
      obtain ⟨x, hx, ⟨⟩⟩ := Option.map_eq_some_iff.1 h
      simp at hmem
    case case12 =>
      intro h
      obtain ⟨its, hits, ⟨⟩⟩ := Option.map_eq_some_iff.1 h
      exact absurd hmem (named?_plain hits)
    -- Every other field is a single item of its own.
    all_goals
      intro h
      cases h <;> simp at hmem
  case mpr =>
    rintro rfl
    cases h
    exact List.mem_singleton_self _

/-- The pattern has `%#z` in the place of a field: what stands before it is a pattern. -/
def HoldsPermissive (pattern : String) : Prop :=
  ∃ before after, pattern = before ++ "%#z" ++ after ∧ (items? before).isSome

/-- After a pattern, `%#z` is the permissive offset. -/
theorem Reads.mem_of_before {before after : List Char} (hbefore : Reads before more)
    (h : Reads (before ++ '%' :: '#' :: 'z' :: after) its) : .field .offsetPermissive ∈ its := by
  induction hbefore generalizing its with
  | nil =>
    obtain ⟨first, rest, more, hfield, -, rfl⟩ := h.of_percent
    exact List.mem_append_left _ ((mem_specifier?_iff hfield).2 (by cases hfield; rfl))
  | @field taken middle _ _ hfield _ ih =>
    rw [List.cons_append, List.append_assoc] at h
    obtain ⟨first, rest, more, hsame, hrest, rfl⟩ := h.of_percent
    rw [specifier?_append hfield] at hsame
    cases hsame
    exact List.mem_append_right _ (ih hrest)
  | literal hc _ ih =>
    obtain ⟨more, hrest, rfl⟩ := h.of_ne_percent hc
    exact List.mem_cons_of_mem _ (ih hrest)

/-- The permissive offset comes from `%#z` after a pattern. -/
theorem Reads.exists_before (h : Reads cs its) (hmem : .field .offsetPermissive ∈ its) :
    ∃ before after first, cs = before ++ '%' :: '#' :: 'z' :: after ∧ Reads before first := by
  induction h with
  | nil => cases hmem
  | @field taken rest its more hfield hrest ih =>
    rcases List.mem_append.1 hmem with hits | hmore
    · have htaken := (mem_specifier?_iff hfield).1 hits
      exact ⟨[], rest, [], by rw [htaken]; rfl, .nil⟩
    · obtain ⟨before, after, first, rfl, hfirst⟩ := ih hmore
      exact ⟨'%' :: (taken ++ before), after, its ++ first, by simp, .field hfield hfirst⟩
  | @literal c rest more hc hrest ih =>
    obtain ⟨before, after, first, rfl, hfirst⟩ := ih (by simpa using hmem)
    exact ⟨c :: before, after, .literal c :: first, rfl, .literal hc hfirst⟩

/-- The permissive offset stands among the items of a pattern where the pattern has `%#z` in the
place of a field. -/
theorem mem_iff_holdsPermissive {pattern : String} (h : items? pattern = some its) :
    .field .offsetPermissive ∈ its ↔ HoldsPermissive pattern := by
  have hreads := items?_eq_some_iff.1 h
  constructor
  case mp =>
    intro hmem
    obtain ⟨before, after, first, hcs, hfirst⟩ := hreads.exists_before hmem
    refine ⟨.ofList before, .ofList after, ?_, ?_⟩
    · rw [← String.toList_inj]
      simp [hcs]
    · have hbefore : items? (.ofList before) = some first :=
        items?_eq_some_iff.2 (by simpa using hfirst)
      simp [hbefore]
  case mpr =>
    rintro ⟨before, after, rfl, hbefore⟩
    obtain ⟨first, hfirst⟩ := Option.isSome_iff_exists.1 hbefore
    rw [String.toList_append, String.toList_append, List.append_assoc] at hreads
    exact (items?_eq_some_iff.1 hfirst).mem_of_before hreads

end ProcessMigration.Time.Pattern
