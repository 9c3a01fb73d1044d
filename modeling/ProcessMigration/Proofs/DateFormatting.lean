import ProcessMigration.Proofs.DatePatterns
import ProcessMigration.Variables.Invocation
import ProcessMigration.Variables.Registry

/-!
# Where reformatting a date breaks off

The constructor of the interceptor that reformats dates takes every pattern whose fields are all
known. One of them, the permissive offset `%#z`, is only meant for reading times: a pattern that has
it is taken, and then breaks off every run in which a time comes up.

* `DateFormat.run_invoke`: the work on an invocation by the function on its value;
* `InterceptorFactory.dateFormat_eq_ok`: the pattern that an interceptor of the registry has;
* `DateFormat.crashes_iff_permissive`: for every pattern that is taken, the invocations that break
  off, and that none that fails is changed.
-/

namespace ProcessMigration

open Time.Pattern (HoldsPermissive)

/-- The value is a text that reads as a time. -/
def Invocation.HoldsTime (x : Invocation) : Prop :=
  ∃ s z, x.value = .string s ∧ ZonedTime.read s = .ok z

namespace DateFormat

variable {pattern : String} {f : DateFormat}

/-- Reformatting the value breaks off the run. -/
def Crashes (f : DateFormat) (x : Invocation) : Prop :=
  ∃ message, (f.invoke.run x).1 = .error (.crashed message)

/-- A pattern that is taken is kept, with its items. -/
theorem ofPattern_eq_ok (h : ofPattern pattern = .ok f) :
    f.pattern = pattern ∧ Time.Pattern.items? pattern = some f.items := by
  unfold ofPattern at h
  split at h
  case h_1 items hitems =>
    cases h
    exact ⟨rfl, hitems⟩
  case h_2 => cases h

/-- The work on an invocation puts the new value in place of the old one, or fails and changes
nothing. -/
theorem run_invoke (f : DateFormat) (x : Invocation) :
    f.invoke.run x =
      match f.execute x.value with
      | .ok value => (.ok (), { x with value })
      | .error e => (.error e, x) := by
  obtain ⟨source, value⟩ := x
  unfold invoke
  simp only [Action.run_bind, Action.run_get]
  cases value with
  | null => rfl
  | string s =>
    cases hread : ZonedTime.read s with
    | error e => simp [execute, hread]
    | ok z =>
      cases hwrite : Time.Pattern.write? f.items z with
      | none => simp [execute, hread, hwrite]
      | some text => simp [execute, hread, hwrite, Invocation.setValue]
  | bool => rfl
  | number => rfl
  | array => rfl
  | object => rfl

/-- The function on values breaks off on the times that have no text. -/
theorem execute_eq_crashed_iff {value : Json} :
    (∃ message, f.execute value = .error (.crashed message)) ↔
      ∃ s z, value = .string s ∧ ZonedTime.read s = .ok z ∧
        Time.Pattern.write? f.items z = none := by
  cases value with
  | string s =>
    cases hread : ZonedTime.read s with
    | error e => simp [execute, hread]
    | ok z => cases hwrite : Time.Pattern.write? f.items z <;> simp [execute, hread, hwrite]
  | _ => simp [execute]

/-- What becomes of an invocation under the interceptor of a pattern. -/
structure Outcomes (pattern : String) (f : DateFormat) : Prop where
  /-- The value is replaced by what the interceptor makes of it. -/
  executes (x : Invocation) : f.invoke.run x =
    match f.interceptor.execute x.source x.value with
    | .ok value => (.ok (), { x with value })
    | .error e => (.error e, x)
  /-- The run breaks off where the value is a time and the pattern has the permissive offset. -/
  crashes_iff (x : Invocation) : f.Crashes x ↔ HoldsPermissive pattern ∧ x.HoldsTime
  /-- However it fails, the invocation is what it was. -/
  unchanged (x : Invocation) (e : InterceptorFailure) :
    (f.invoke.run x).1 = .error e → (f.invoke.run x).2 = x

theorem outcomes_of_taken (h : ofPattern pattern = .ok f) : Outcomes pattern f where
  executes := run_invoke f
  crashes_iff x := by
    have hpermissive : ∀ z, Time.Pattern.write? f.items z = none ↔ HoldsPermissive pattern :=
      fun z => Time.Pattern.write?_eq_none_iff.trans
        (Time.Pattern.mem_iff_holdsPermissive (ofPattern_eq_ok h).2)
    calc f.Crashes x
      _ ↔ ∃ message, f.execute x.value = .error (.crashed message) := by
        unfold Crashes
        rw [run_invoke]
        cases f.execute x.value <;> simp
      _ ↔ ∃ s z, x.value = .string s ∧ ZonedTime.read s = .ok z ∧
          Time.Pattern.write? f.items z = none := execute_eq_crashed_iff
      _ ↔ HoldsPermissive pattern ∧ x.HoldsTime := by
        simp only [hpermissive, Invocation.HoldsTime]
        grind
  unchanged x e := by
    rw [run_invoke]
    cases f.execute x.value with
    | ok value => rintro ⟨⟩
    | error e => exact fun _ => rfl

end DateFormat

/-! ## Properties -/

namespace InterceptorFactory

/-- The properties name a pattern, or they name none and the default is meant. -/
def Names (properties : SortedMap Json) (pattern : String) : Prop :=
  properties.entries = [("format", .string pattern)] ∨
    (properties.entries = [] ∨ properties.entries = [("format", .null)]) ∧
      pattern = DateFormat.defaultPattern

/-- Behind the format no further property is taken. -/
theorem patternOf_of_ne {es : List (String × Json)} {found result : Option String}
    (hne : ∀ e ∈ es, "format" < e.1) (h : patternOf es found = .ok result) :
    es = [] ∧ result = found := by
  cases es with
  | nil =>
    cases h
    exact ⟨rfl, rfl⟩
  | cons e es =>
    have hname : e.1 ≠ "format" := by
      intro heq
      exact String.lt_irrefl _ (heq ▸ hne e List.mem_cons_self : e.1 < e.1)
    unfold patternOf at h
    rw [if_neg hname] at h
    cases h

/-- The properties that are taken name the pattern that is used. -/
theorem names_of_patternOf {properties : SortedMap Json} {found : Option String}
    (h : patternOf properties.entries none = .ok found) :
    Names properties (found.getD DateFormat.defaultPattern) := by
  unfold Names
  obtain ⟨entries, hsorted⟩ := properties
  cases entries with
  | nil =>
    cases h
    exact .inr ⟨.inl rfl, rfl⟩
  | cons e es =>
    obtain ⟨name, value⟩ := e
    have hlater := (List.pairwise_cons.1 hsorted).1
    unfold patternOf at h
    split at h
    case isFalse => cases h
    case isTrue hname =>
      subst hname
      split at h
      case h_1 s =>
        obtain ⟨rfl, rfl⟩ := patternOf_of_ne hlater h
        exact .inl rfl
      case h_2 =>
        obtain ⟨rfl, rfl⟩ := patternOf_of_ne hlater h
        exact .inr ⟨.inr rfl, rfl⟩
      case h_3 => cases h

/-- The registry makes the interceptors of the patterns that its properties name. -/
theorem dateFormat_eq_ok {properties : SortedMap Json} {i : Interceptor}
    (h : dateFormat properties = .ok i) :
    ∃ pattern f, Names properties pattern ∧ DateFormat.ofPattern pattern = .ok f ∧
      i = f.interceptor := by
  unfold dateFormat at h
  split at h
  case h_1 => cases h
  case h_2 pattern hpattern =>
    split at h
    case h_1 => cases h
    case h_2 f hf =>
      cases h
      exact ⟨_, f, names_of_patternOf hpattern, hf, rfl⟩

end InterceptorFactory

namespace DateFormat

open InterceptorFactory (Names)

/-! ## Taken patterns -/

/-- A taken pattern breaks off a run exactly where it has the permissive offset and the value reads
as a time; whatever fails leaves the invocation as it was. The interceptors of the registry have
taken patterns, those that their properties name. -/
theorem crashes_iff_permissive (pattern : String) (f : DateFormat) (properties : SortedMap Json)
    (i : Interceptor) :
    (ofPattern pattern = .ok f → Outcomes pattern f) ∧
      (InterceptorFactory.dateFormat properties = .ok i →
        ∃ named f, Names properties named ∧ ofPattern named = .ok f ∧ i = f.interceptor ∧
          Outcomes named f) := by
  constructor
  case left => exact outcomes_of_taken
  case right =>
    intro h
    obtain ⟨named, f, hnames, hf, hi⟩ := InterceptorFactory.dateFormat_eq_ok h
    exact ⟨named, f, hnames, hf, hi, outcomes_of_taken hf⟩

/-- The default pattern breaks off nothing; the permissive offset from the properties breaks off at
every time. -/
theorem configured_formats_run :
    (∃ f, ofPattern defaultPattern = .ok f ∧ ∀ x, ¬Crashes f x) ∧
      ∃ i f, InterceptorFactory.dateFormat (.ofList [("format", .string "%#z")]) = .ok i ∧
        i = interceptor f ∧ ∀ x : Invocation, x.HoldsTime → Crashes f x := by
  constructor
  case left =>
    obtain ⟨items, hitems⟩ : ∃ items, Time.Pattern.items? defaultPattern = some items :=
      Option.isSome_iff_exists.1 (by decide)
    have htaken : ofPattern defaultPattern = .ok ⟨defaultPattern, items⟩ := by
      rw [ofPattern, hitems]
    refine ⟨_, htaken, ?_⟩
    intro x hcrash
    have houtcomes := (crashes_iff_permissive _ _ .empty .noFiles).1 htaken
    have hholds := (houtcomes.crashes_iff x).1 hcrash
    have hmem := (Time.Pattern.mem_iff_holdsPermissive hitems).2 hholds.1
    revert hmem
    cases hitems
    decide
  case right =>
    obtain ⟨pattern, f, hnames, hf, hi, houtcomes⟩ :=
      (crashes_iff_permissive "" ⟨"", []⟩ (.ofList [("format", .string "%#z")])
        (interceptor ⟨"%#z", [.field .offsetPermissive]⟩)).2 rfl
    refine ⟨_, f, rfl, hi, ?_⟩
    intro x hx
    refine (houtcomes.crashes_iff x).2 ⟨?_, hx⟩
    rcases hnames with hformat | ⟨hnone | hnull, -⟩
    case inl =>
      cases hformat
      exact ⟨"", "", rfl, rfl⟩
    case inr.inl => cases hnone
    case inr.inr => cases hnull

/-- The permissive offset alone is taken, and breaks off the run at a time. -/
theorem permissive_offset_crashes :
    ∃ f, ofPattern "%#z" = .ok f ∧
      ∀ source, f.Crashes ⟨source, .string "2026-03-01T10:15:30Z"⟩ := by
  refine ⟨⟨"%#z", [.field .offsetPermissive]⟩, by decide, fun source => ⟨unwritable, ?_⟩⟩
  rfl

end DateFormat
end ProcessMigration
