import Mathlib.Tactic.IntervalCases
import ProcessMigration.Proofs.Listing
import ProcessMigration.Proofs.StartDate

/-!
# Start dates sort as texts

Start dates with a year of four digits are written in fields of fixed widths, the greatest unit
first. So the order of the texts is the order of time, up to the microseconds that are written.

* `Text.zeroPadded_append_lt`: fields compare as the numbers in them;
* `Time.Date.precedes_ofDayNumber`: later days have later dates;
* `Instant.microText_lt`: an earlier time has a smaller text; `Row.before_of_dateLt`: texts in order
  are times in order.
-/

namespace ProcessMigration

open Time Text

/-! ## Fields of digits -/

namespace Text

theorem numberOf_cons (c : Char) (ds : List Char) :
    numberOf (c :: ds) = (c.toNat - '0'.toNat) * 10 ^ ds.length + numberOf ds := by
  have hstart : ∀ ds n, ds.foldl (fun n c => n * 10 + (c.toNat - '0'.toNat)) n =
      n * 10 ^ ds.length + numberOf ds := by
    intro ds
    induction ds with
    | nil => simp [numberOf]
    | cons d rest ih =>
      intro n
      have hrest := ih (d.toNat - '0'.toNat)
      have hall := ih (n * 10 + (d.toNat - '0'.toNat))
      have hdef : numberOf (d :: rest) =
          rest.foldl (fun n c => n * 10 + (c.toNat - '0'.toNat)) (d.toNat - '0'.toNat) := by
        simp [numberOf]
      rw [List.foldl_cons, hall, hdef, hrest, List.length_cons, Nat.pow_succ, Nat.add_mul,
        Nat.mul_assoc, Nat.mul_comm 10, Nat.add_assoc]
  have hdef : numberOf (c :: ds) =
      ds.foldl (fun n c => n * 10 + (c.toNat - '0'.toNat)) (c.toNat - '0'.toNat) := by
    simp [numberOf]
  rw [hdef, hstart]

theorem numberOf_lt {ds : List Char} (h : ∀ c ∈ ds, c.isDigit = true) :
    numberOf ds < 10 ^ ds.length := by
  induction ds with
  | nil => simp [numberOf]
  | cons c rest ih =>
    have hrest := ih fun d hd => h d (List.mem_cons_of_mem c hd)
    have hdigit : c.toNat - '0'.toNat ≤ 9 := by
      have hc := h c List.mem_cons_self
      unfold Char.isDigit at hc
      simp only [Bool.and_eq_true, decide_eq_true_eq] at hc
      have hle : c.toNat ≤ '9'.toNat := hc.2
      have hnine : '9'.toNat = '0'.toNat + 9 := rfl
      omega
    rw [numberOf_cons, List.length_cons, Nat.pow_succ]
    have hprod : (c.toNat - '0'.toNat) * 10 ^ rest.length ≤ 9 * 10 ^ rest.length :=
      Nat.mul_le_mul_right _ hdigit
    omega

/-- Fields of one width compare as their numbers, whatever follows them. -/
theorem append_lt_of_numberOf_lt {ds es : List Char} (hds : ∀ c ∈ ds, c.isDigit = true)
    (hes : ∀ c ∈ es, c.isDigit = true) (hlen : ds.length = es.length)
    (h : numberOf ds < numberOf es) (xs ys : List Char) : ds ++ xs < es ++ ys := by
  induction ds generalizing es with
  | nil =>
    cases es with
    | nil => exact absurd h (Nat.lt_irrefl _)
    | cons e es => cases hlen
  | cons c ds ih =>
    cases es with
    | nil => cases hlen
    | cons e es =>
      have hlen' : ds.length = es.length := Nat.succ.inj hlen
      rw [List.cons_append, List.cons_append, List.cons_lt_cons_iff]
      rw [numberOf_cons, numberOf_cons, hlen'] at h
      rcases Nat.lt_trichotomy c.toNat e.toNat with hlt | heq | hgt
      · exact .inl hlt
      · have hce : c = e := Char.toNat_inj.1 heq
        subst hce
        refine .inr ⟨rfl, ih (fun d hd => hds d (List.mem_cons_of_mem c hd))
          (fun d hd => hes d (List.mem_cons_of_mem c hd)) hlen' ?_⟩
        omega
      · -- a greater first digit outweighs all that follows
        exfalso
        have hbound := numberOf_lt fun d hd => hes d (List.mem_cons_of_mem e hd)
        have hc : '0'.toNat ≤ e.toNat := by
          have he := hes e List.mem_cons_self
          unfold Char.isDigit at he
          simp only [Bool.and_eq_true, decide_eq_true_eq] at he
          exact he.1
        have hstep : (e.toNat - '0'.toNat + 1) * 10 ^ es.length ≤
            (c.toNat - '0'.toNat) * 10 ^ es.length :=
          Nat.mul_le_mul_right _ (by omega)
        rw [Nat.add_mul] at hstep
        omega

/-- Numbers in fields of one width: the first that differs decides. -/
theorem zeroPadded_append_lt {width a b : Nat} (hpos : 0 < width) (ha : a < 10 ^ width)
    (hb : b < 10 ^ width) {xs ys : List Char} (h : a < b ∨ (a = b ∧ xs < ys)) :
    zeroPadded width a ++ xs < zeroPadded width b ++ ys := by
  rcases h with hlt | ⟨rfl, hlt⟩
  · refine append_lt_of_numberOf_lt (fun _ => isDigit_of_mem_zeroPadded)
      (fun _ => isDigit_of_mem_zeroPadded) ?_ ?_ xs ys
    · rw [length_zeroPadded hpos ha, length_zeroPadded hpos hb]
    · rw [numberOf_zeroPadded, numberOf_zeroPadded]
      exact hlt
  · exact List.append_left_lt hlt

end Text

/-! ## Dates -/

namespace Time.Date

/-- The order of dates by year, month and day. -/
def Precedes (a b : Date) : Prop :=
  a.year < b.year ∨ (a.year = b.year ∧
    (a.month < b.month ∨ (a.month = b.month ∧ a.day < b.day)))

/-- The number of the day before a month. -/
def beforeMonth (year : Int) (month : Nat) : Int := (Date.mk year month 0).dayNumber

theorem dayNumber_eq (d : Date) : d.dayNumber = beforeMonth d.year d.month + d.day := by
  unfold beforeMonth dayNumber
  dsimp only
  omega

/-- A month ends where the next one begins. -/
theorem beforeMonth_succ (year : Int) {month : Nat} (hpos : 1 ≤ month) (hlt : month < 12) :
    beforeMonth year (month + 1) = beforeMonth year month + monthLength year month := by
  have hleap : isLeapYear year = decide (year % 4 = 0 ∧ (year % 100 ≠ 0 ∨ year % 400 = 0)) := by
    unfold isLeapYear
    rw [Bool.eq_iff_iff]
    simp
  unfold beforeMonth dayNumber monthLength
  rw [hleap]
  interval_cases month <;> simp <;> (try split) <;> omega

/-- A year ends where the next one begins. -/
theorem beforeMonth_next (year : Int) : beforeMonth (year + 1) 1 = beforeMonth year 12 + 31 := by
  unfold beforeMonth dayNumber
  simp
  omega

theorem beforeMonth_le (year : Int) {month : Nat} (hpos : 1 ≤ month) (later : Nat)
    (h12 : month + later + 1 ≤ 12) :
    beforeMonth year month + monthLength year month ≤ beforeMonth year (month + later + 1) := by
  induction later with
  | zero => exact (beforeMonth_succ year hpos (by omega)).ge
  | succ later ih =>
    have hih := ih (by omega)
    have hsucc := beforeMonth_succ year (show 1 ≤ month + later + 1 by omega) (by omega)
    rw [show month + (later + 1) + 1 = month + later + 1 + 1 by omega, hsucc]
    omega

theorem beforeMonth_le_year (year : Int) (later : Nat) :
    beforeMonth year 12 + 31 ≤ beforeMonth (year + 1 + later) 1 := by
  induction later with
  | zero =>
    have hnext := beforeMonth_next year
    simpa using hnext.ge
  | succ later ih =>
    have hnext := beforeMonth_next (year + 1 + later)
    have hyear := beforeMonth_le (year + 1 + later) (Nat.le_refl 1) 10 (by omega)
    rw [show year + 1 + ((later + 1 : Nat) : Int) = year + 1 + later + 1 by omega, hnext]
    have h12 : beforeMonth (year + 1 + later) (1 + 10 + 1) =
        beforeMonth (year + 1 + later) 12 := rfl
    omega

theorem bounds {d : Date} (h : d.isValid = true) :
    1 ≤ d.month ∧ d.month ≤ 12 ∧ 1 ≤ d.day ∧ d.day ≤ monthLength d.year d.month := by
  unfold isValid at h
  simp only [Bool.and_eq_true, decide_eq_true_eq] at h
  omega

theorem dayNumber_lt {a b : Date} (ha : a.isValid = true) (hb : b.isValid = true)
    (h : a.Precedes b) : a.dayNumber < b.dayNumber := by
  obtain ⟨ha1, ha12, had1, hadlen⟩ := bounds ha
  obtain ⟨hb1, hb12, hbd1, _⟩ := bounds hb
  rw [dayNumber_eq, dayNumber_eq]
  rcases h with hyear | ⟨hyear, hmonth | ⟨hmonth, hday⟩⟩
  · -- the first year ends before the second one begins
    have hend : beforeMonth a.year a.month + a.day ≤ beforeMonth a.year 12 + 31 := by
      rcases Nat.lt_or_ge a.month 12 with hlt | hge
      · have hle := beforeMonth_le a.year ha1 (11 - a.month) (by omega)
        rw [show a.month + (11 - a.month) + 1 = 12 by omega] at hle
        omega
      · have heq : a.month = 12 := by omega
        rw [heq] at hadlen ⊢
        have hlen : monthLength a.year 12 = 31 := rfl
        omega
    have hstart : beforeMonth b.year 1 ≤ beforeMonth b.year b.month := by
      rcases Nat.lt_or_ge 1 b.month with hlt | hge
      · have hle := beforeMonth_le b.year (Nat.le_refl 1) (b.month - 2) (by omega)
        rw [show 1 + (b.month - 2) + 1 = b.month by omega] at hle
        omega
      · rw [show b.month = 1 by omega]
    have hyears := beforeMonth_le_year a.year (b.year - a.year - 1).toNat
    rw [show a.year + 1 + ((b.year - a.year - 1).toNat : Int) = b.year by omega] at hyears
    omega
  · have hle := beforeMonth_le a.year ha1 (b.month - a.month - 1) (by omega)
    rw [show a.month + (b.month - a.month - 1) + 1 = b.month by omega, hyear] at hle
    rw [hyear] at hadlen ⊢
    omega
  · rw [hyear, hmonth]
    omega

/-- Later days have later dates. -/
theorem precedes_ofDayNumber {m n : Int} (hm : yearInRange (ofDayNumber m).year = true)
    (hn : yearInRange (ofDayNumber n).year = true) (h : m < n) :
    (ofDayNumber m).Precedes (ofDayNumber n) := by
  have hvm := isValid_ofDayNumber hm
  have hvn := isValid_ofDayNumber hn
  have hconnex : (ofDayNumber m).Precedes (ofDayNumber n) ∨ ofDayNumber m = ofDayNumber n ∨
      (ofDayNumber n).Precedes (ofDayNumber m) := by
    unfold Precedes
    rw [Date.mk.injEq (ofDayNumber m).year]
    omega
  rcases hconnex with hlt | heq | hgt
  · exact hlt
  · have hsame := congrArg dayNumber heq
    rw [dayNumber_ofDayNumber, dayNumber_ofDayNumber] at hsame
    omega
  · have hless := dayNumber_lt hvn hvm hgt
    rw [dayNumber_ofDayNumber, dayNumber_ofDayNumber] at hless
    omega

end Time.Date

/-! ## Times -/

namespace Text

/-- A field and what follows its separator. -/
theorem field_lt {width a b : Nat} (hpos : 0 < width) (ha : a < 10 ^ width) (hb : b < 10 ^ width)
    (separator : Char) {xs ys : List Char} (h : a < b ∨ (a = b ∧ xs < ys)) :
    zeroPadded width a ++ separator :: xs < zeroPadded width b ++ separator :: ys := by
  refine zeroPadded_append_lt hpos ha hb (h.imp_right ?_)
  rintro ⟨heq, hlt⟩
  refine ⟨heq, ?_⟩
  exact List.cons_lt_cons_iff.2 (.inr ⟨rfl, hlt⟩)

end Text

namespace Instant

/-- The characters of a time of the day, down to the microseconds. -/
def clockFields (t : Instant) : List Char :=
  zeroPadded 2 (t.secondOfDay / 3600) ++ ':' :: (zeroPadded 2 (t.secondOfDay / 60 % 60) ++ ':' ::
    (zeroPadded 2 (t.secondOfDay % 60 + t.nanos / second) ++ '.' ::
      (zeroPadded 6 (t.nanos % second / 1000) ++ 'Z' :: [])))

theorem microText_fields {t : Instant} (hyear : 0 ≤ t.date.year ∧ t.date.year ≤ 9999) :
    t.microText.toList = zeroPadded 4 t.date.year.toNat ++ '-' ::
      (zeroPadded 2 t.date.month ++ '-' :: (zeroPadded 2 t.date.day ++ 'T' :: t.clockFields)) := by
  rw [t.microText_toList]
  unfold dateChars yearChars clockChars clockFields
  rw [if_pos hyear]
  simp only [List.append_assoc, List.cons_append]

/-- On one day the times of the clock are in the order of the texts. -/
theorem clockFields_lt {t u : Instant} (ht : t.OnClock) (hu : u.OnClock)
    (hday : t.seconds / dayLength = u.seconds / dayLength) (h : t.cut.lt u.cut = true) :
    t.clockFields < u.clockFields := by
  have htday := t.secondOfDay_lt
  have huday := u.secondOfDay_lt
  have hts : (t.secondOfDay : Int) = t.seconds % 86400 := by
    unfold secondOfDay dayLength
    omega
  have hus : (u.secondOfDay : Int) = u.seconds % 86400 := by
    unfold secondOfDay dayLength
    omega
  unfold OnClock at ht hu
  rw [lt_iff] at h
  unfold cut at h
  unfold dayLength at hday
  simp only at h
  unfold clockFields
  simp only [second] at ht hu ⊢
  refine field_lt (by decide) (by omega) (by omega) ':' ?_
  by_cases hhour : t.secondOfDay / 3600 < u.secondOfDay / 3600
  · exact .inl hhour
  refine .inr ⟨by omega, field_lt (by decide) (by omega) (by omega) ':' ?_⟩
  by_cases hminute : t.secondOfDay / 60 % 60 < u.secondOfDay / 60 % 60
  · exact .inl hminute
  -- within a minute only the last second can be a leap second
  refine .inr ⟨by omega, field_lt (by decide) (by omega) (by omega) '.' ?_⟩
  by_cases hsecond : t.secondOfDay % 60 + t.nanos / 1000000000 <
      u.secondOfDay % 60 + u.nanos / 1000000000
  · exact .inl hsecond
  refine .inr ⟨by omega, field_lt (by decide) (by omega) (by omega) 'Z' (.inl ?_)⟩
  omega

/-- An earlier time has a smaller text. -/
theorem microText_lt {t u : Instant} (ht : t.OnClock) (hu : u.OnClock)
    (htyear : 0 ≤ t.date.year ∧ t.date.year ≤ 9999) (huyear : 0 ≤ u.date.year ∧ u.date.year ≤ 9999)
    (h : t.cut.lt u.cut = true) : t.microText < u.microText := by
  have htrange : yearInRange t.date.year = true := by
    simp [yearInRange]
    omega
  have hurange : yearInRange u.date.year = true := by
    simp [yearInRange]
    omega
  -- every field has its place in the text as wide as the field can be
  have htbounds := Date.bounds (Date.isValid_ofDayNumber htrange)
  have hubounds := Date.bounds (Date.isValid_ofDayNumber hurange)
  have hlength : ∀ year month, monthLength year month ≤ 31 := by
    intro year month
    unfold monthLength
    split
    · split <;> omega
    · split <;> omega
  have htlength := hlength t.date.year t.date.month
  have hulength := hlength u.date.year u.date.month
  have hdays : t.seconds / dayLength ≤ u.seconds / dayLength := by
    rw [lt_iff] at h
    unfold cut at h
    unfold dayLength
    simp only at h
    omega
  have hdate : t.date.Precedes u.date ∨
      (t.date = u.date ∧ t.clockFields < u.clockFields) := by
    rcases Int.lt_or_eq_of_le hdays with hlt | heq
    · exact .inl (Date.precedes_ofDayNumber htrange hurange hlt)
    · exact .inr ⟨congrArg Date.ofDayNumber heq, clockFields_lt ht hu heq h⟩
  rw [String.lt_iff, microText_fields htyear, microText_fields huyear]
  unfold date at *
  unfold Date.Precedes at hdate
  -- field by field: the first that differs decides, in the text as in the date
  refine field_lt (by decide) (by omega) (by omega) '-' ?_
  rcases hdate with (hyear | ⟨hyear, hmonth | ⟨hmonth, hday⟩⟩) | ⟨hsame, hclock⟩
  · exact .inl (by omega)
  · refine .inr ⟨by omega, field_lt (by decide) (by omega) (by omega) '-' (.inl hmonth)⟩
  · refine .inr ⟨by omega, field_lt (by decide) (by omega) (by omega) '-' (.inr ⟨hmonth, ?_⟩)⟩
    exact field_lt (by decide) (by omega) (by omega) 'T' (.inl hday)
  · rw [hsame]
    refine .inr ⟨rfl, field_lt (by decide) (by omega) (by omega) '-' (.inr ⟨rfl, ?_⟩)⟩
    exact field_lt (by decide) (by omega) (by omega) 'T' (.inr ⟨rfl, hclock⟩)

/-- Start dates that are missing or written with a year of four digits. -/
def Dated (start : Option Instant) : Prop :=
  ∀ t, start = some t → t.OnClock ∧ 0 ≤ t.date.year ∧ t.date.year ≤ 9999

/-- Cutting a time to microseconds does not change its text. -/
theorem microText_cut (t : Instant) : t.cut.microText = t.microText := by
  have hcarry : t.nanos / 1000 * 1000 / second = t.nanos / second := by
    simp only [second]
    omega
  have hmicros : t.nanos / 1000 * 1000 % second / 1000 = t.nanos % second / 1000 := by
    simp only [second]
    omega
  unfold microText textWith cut
  rw [hmicros]
  unfold clockChars date secondOfDay
  rw [hcarry]

/-- Times with one text are cut alike. -/
theorem cut_eq_of_microText_eq {a b : Option Instant} (ha : Dated a) (hb : Dated b)
    (h : a.map microText = b.map microText) : a.map cut = b.map cut := by
  have hread := Row.readDate_microText ha
  rw [h, Row.readDate_microText hb] at hread
  exact (Except.ok.inj hread).symm

end Instant

/-- Texts in order are times in order. -/
theorem Row.before_of_dateLt {a b : Option Instant} (ha : Instant.Dated a) (hb : Instant.Dated b)
    (h : Row.dateLt (a.map Instant.microText) (b.map Instant.microText) = true) :
    Instant.before (a.map Instant.cut) (b.map Instant.cut) = true := by
  cases a with
  | none =>
    cases b with
    | none => cases h
    | some u => rfl
  | some t =>
    cases b with
    | none => cases h
    | some u =>
      obtain ⟨ht, htyear⟩ := ha t rfl
      obtain ⟨hu, huyear⟩ := hb u rfl
      have hlt : t.microText < u.microText := by
        simpa [Row.dateLt] using h
      rcases Instant.before_connex (some t.cut) (some u.cut) with hbefore | heq | hafter
      · exact hbefore
      · have hsame := congrArg Instant.microText (Option.some.inj heq)
        rw [Instant.microText_cut, Instant.microText_cut] at hsame
        rw [hsame] at hlt
        exact absurd hlt (String.lt_irrefl _)
      · have hgt := Instant.microText_lt hu ht huyear htyear hafter
        exact absurd (String.lt_trans hlt hgt) (String.lt_irrefl _)

end ProcessMigration
