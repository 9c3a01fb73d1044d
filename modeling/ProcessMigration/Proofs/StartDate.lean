import ProcessMigration.Mapping.Row
import ProcessMigration.Proofs.Calendar
import ProcessMigration.Proofs.Digits
import ProcessMigration.Source.Snapshot

/-!
# The start date of a row

A start date is written with microseconds only, so reading it back gives the time cut to
microseconds, which is never after the time itself.

* `Instant.OnClock`: the nanoseconds are those of a clock, which go past a second during a leap
  second only; `SnapshotSource.read?_onClock`: so are those of every snapshot that is read;
* `Row.readDate_microText`: a start date read back;
* `Instant.not_lt_cut`: a time is not before itself cut to microseconds.
-/

namespace ProcessMigration

open Time Text

/-- The nanoseconds are less than a second, or the time lies in a leap second. -/
def Instant.OnClock (t : Instant) : Prop :=
  t.nanos < Time.second ∨ (t.nanos < 2 * Time.second ∧ t.seconds % 60 = 59)

/-- The time cut to microseconds. -/
def Instant.cut (t : Instant) : Instant := { t with nanos := t.nanos / 1000 * 1000 }

/-- A time cut to microseconds is not after the time. -/
theorem Instant.not_lt_cut (t : Instant) : ¬t.lt t.cut = true := by
  unfold Instant.lt Instant.cut
  simp
  omega

/-! ## Parts of a written time -/

namespace Time

theorem pair_digits {a b : Char} (ha : a.isDigit = true) (hb : b.isDigit = true)
    (rest : List Char) : pair (a :: b :: rest) = .ok (numberOf [a, b], rest) := by
  unfold pair
  simp [ha, hb]

theorem pair_zeroPadded {n : Nat} (h : n < 100) (rest : List Char) :
    pair (zeroPadded 2 n ++ rest) = .ok (n, rest) := by
  have hlen := length_zeroPadded (by omega : 0 < 2) h
  have hdigits : ∀ c ∈ zeroPadded 2 n, c.isDigit = true := fun c => isDigit_of_mem_zeroPadded
  have hvalue := numberOf_zeroPadded 2 n
  rcases hfield : zeroPadded 2 n with _ | ⟨a, _ | ⟨b, _ | ⟨c, tail⟩⟩⟩
  all_goals rw [hfield] at hlen hvalue hdigits
  all_goals try (simp at hlen; done)
  rw [← hvalue]
  exact pair_digits (hdigits a (by simp)) (hdigits b (by simp)) rest

theorem oneOf_cons (allowed : List Char) (c : Char) (h : allowed.contains c = true)
    (rest : List Char) : oneOf allowed (c :: rest) = .ok ((), rest) := by
  unfold oneOf
  simp only [h, if_true]

/-- A year of four digits is read as two pairs. -/
theorem pairs_year {n : Nat} (h : n < 10000) (rest : List Char) :
    ∃ century yearOfCentury, century * 100 + yearOfCentury = n ∧ ∃ middle,
      pair (zeroPadded 4 n ++ rest) = .ok (century, middle) ∧
        pair middle = .ok (yearOfCentury, rest) := by
  have hlen := length_zeroPadded (by omega : 0 < 4) h
  have hdigits : ∀ c ∈ zeroPadded 4 n, c.isDigit = true := fun c => isDigit_of_mem_zeroPadded
  have hvalue := numberOf_zeroPadded 4 n
  rcases hfield : zeroPadded 4 n with _ | ⟨a, _ | ⟨b, _ | ⟨c, _ | ⟨d, _ | ⟨e, tail⟩⟩⟩⟩⟩
  all_goals rw [hfield] at hlen hvalue hdigits
  all_goals try (simp at hlen; done)
  refine ⟨numberOf [a, b], numberOf [c, d], ?_, c :: d :: rest, ?_, ?_⟩
  · rw [← hvalue]
    simp only [numberOf, List.foldl_cons, List.foldl_nil]
    omega
  · exact pair_digits (hdigits a (by simp)) (hdigits b (by simp)) _
  · exact pair_digits (hdigits c (by simp)) (hdigits d (by simp)) _

theorem strictDate_dateChars {d : Date} (hyear : 0 ≤ d.year ∧ d.year ≤ 9999)
    (hvalid : d.isValid = true) (rest : List Char) :
    strictDate (dateChars d ++ rest) = .ok (d, rest) := by
  have hfields := hvalid
  simp only [Date.isValid, Bool.and_eq_true, decide_eq_true_eq] at hfields
  obtain ⟨⟨⟨⟨_, _⟩, hmonth⟩, _⟩, hday⟩ := hfields
  have hlength : monthLength d.year d.month ≤ 31 := by
    unfold monthLength
    split
    · split <;> omega
    · split <;> omega
  obtain ⟨century, yearOfCentury, hsum, middle, hpair₁, hpair₂⟩ :=
    pairs_year (n := d.year.toNat) (by omega)
      ('-' :: zeroPadded 2 d.month ++ '-' :: zeroPadded 2 d.day ++ rest)
  have hyearChars : yearChars d.year = zeroPadded 4 d.year.toNat := by
    unfold yearChars
    rw [if_pos hyear]
  have hdate : (⟨(century : Int) * 100 + yearOfCentury, d.month, d.day⟩ : Date) = d := by
    obtain ⟨y, m, day⟩ := d
    simp only [Date.mk.injEq, and_true]
    simp only at hsum hyear
    omega
  unfold strictDate dateChars
  rw [hyearChars]
  simp only [List.append_assoc, List.cons_append] at hpair₁ hpair₂ ⊢
  simp only [hpair₁, hpair₂, bind, Except.bind, oneOf_cons ['-'] '-' rfl,
    pair_zeroPadded (show d.month < 100 by omega), pair_zeroPadded (show d.day < 100 by omega)]
  rw [hdate, if_pos hvalid]

theorem strictFraction_zeroPadded {micros : Nat} (h : micros < 1000000) (rest : List Char) :
    strictFraction ('.' :: zeroPadded 6 micros ++ 'Z' :: rest) = .ok (micros * 1000, 'Z' :: rest) := by
  have hlen := length_zeroPadded (by omega : 0 < 6) h
  have htake : (zeroPadded 6 micros ++ 'Z' :: rest).takeWhile Char.isDigit = zeroPadded 6 micros := by
    rw [List.takeWhile_append_of_pos fun c hc => isDigit_of_mem_zeroPadded hc]
    simp
  have hne : zeroPadded 6 micros ≠ [] := by
    intro hnil
    rw [hnil] at hlen
    cases hlen
  have hnanos : nanosOf (zeroPadded 6 micros) = micros * 1000 := by
    have htaken : (zeroPadded 6 micros).take 9 = zeroPadded 6 micros :=
      List.take_of_length_le (by omega)
    have hscale : Nat.pow 10 (9 - 6) = 1000 := rfl
    unfold nanosOf
    dsimp only
    rw [htaken, hlen, numberOf_zeroPadded, hscale]
  unfold strictFraction
  simp only [List.cons_append]
  rw [htake]
  split
  · next hnil => exact absurd hnil hne
  · rw [hnanos, List.drop_left]

end Time

/-! ## The whole date -/

theorem Time.length_le_byteLength (cs : List Char) : cs.length ≤ byteLength cs := by
  induction cs with
  | nil => exact Nat.le_refl 0
  | cons c rest ih =>
    have hc := Char.utf8Size_pos c
    unfold byteLength
    rw [List.length_cons]
    omega

/-- The characters of a time with microseconds. -/
theorem Instant.microText_toList (t : Instant) :
    t.microText.toList = dateChars t.date ++ 'T' :: clockChars t.secondOfDay t.nanos ++
      ('.' :: zeroPadded 6 (t.nanos % Time.second / 1000) ++ ['Z']) := by
  unfold Instant.microText Instant.textWith
  simp

theorem Instant.length_microText_ge (t : Instant) : 19 ≤ t.microText.toList.length := by
  have hlower : ∀ width n, width ≤ (zeroPadded width n).length := by
    intro width n
    unfold zeroPadded padded
    rw [List.length_append, List.length_replicate]
    omega
  -- a sign makes the year longer only
  have hyear : 4 ≤ (yearChars t.date.year).length := by
    unfold yearChars
    split
    · exact hlower 4 _
    · rw [List.length_cons]
      exact Nat.le_succ_of_le (hlower 4 _)
  have h₁ := hlower 2 t.date.month
  have h₂ := hlower 2 t.date.day
  have h₃ := hlower 2 (t.secondOfDay / 3600)
  have h₄ := hlower 2 (t.secondOfDay / 60 % 60)
  have h₅ := hlower 2 (t.secondOfDay % 60 + t.nanos / Time.second)
  rw [t.microText_toList]
  simp only [dateChars, clockChars, List.length_append, List.length_cons]
  omega

theorem Instant.secondOfDay_lt (t : Instant) : t.secondOfDay < 86400 := by
  unfold secondOfDay dayLength
  omega

/-- The seconds of a written time go up to sixty, which they reach in a leap second only. -/
theorem Instant.OnClock.written_second {t : Instant} (h : t.OnClock) :
    t.secondOfDay % 60 + t.nanos / Time.second ≤ 60 ∧
      (t.secondOfDay % 60 + t.nanos / Time.second = 60 ↔ Time.second ≤ t.nanos) := by
  unfold Instant.OnClock Time.second at *
  unfold Instant.secondOfDay dayLength
  omega

/-- The fields of a written time make up that time, cut to microseconds. -/
theorem ZonedTime.ofFields_microText {t : Instant} (hclock : t.OnClock) :
    ZonedTime.ofFields t.date (t.secondOfDay / 3600) (t.secondOfDay / 60 % 60)
        (t.secondOfDay % 60 + t.nanos / Time.second) (t.nanos % Time.second / 1000 * 1000) 0 =
      ⟨t.cut.seconds, t.cut.nanos, 0⟩ := by
  obtain ⟨_, hsixty⟩ := hclock.written_second
  have hdate : t.date.dayNumber = t.seconds / dayLength := Date.dayNumber_ofDayNumber _
  have hparts : secondsOfDay (t.secondOfDay / 3600) (t.secondOfDay / 60 % 60)
      (t.secondOfDay % 60) = t.secondOfDay := by
    unfold secondsOfDay
    omega
  have htotal : t.seconds / dayLength * dayLength + (t.secondOfDay : Int) = t.seconds := by
    unfold Instant.secondOfDay dayLength
    omega
  unfold ZonedTime.ofFields Instant.cut
  by_cases hleap : t.secondOfDay % 60 + t.nanos / Time.second = 60
  · -- the sixtieth second is read as the fifty-ninth, with a second more of nanoseconds
    have hpast := hsixty.1 hleap
    have hlast : t.secondOfDay % 60 = 59 := by
      unfold Instant.OnClock Time.second at *
      unfold Instant.secondOfDay dayLength at *
      omega
    have hnanos : t.nanos % Time.second / 1000 * 1000 + Time.second = t.nanos / 1000 * 1000 := by
      unfold Instant.OnClock Time.second at *
      omega
    rw [hlast] at hparts
    simp only [hleap, if_true, hdate, hparts, htotal, hnanos]
  · have hbelow : t.nanos < Time.second := Nat.lt_of_not_le fun hpast => hleap (hsixty.2 hpast)
    have hnanos : t.nanos % Time.second / 1000 * 1000 = t.nanos / 1000 * 1000 := by
      rw [Nat.mod_eq_of_lt hbelow]
    rw [Nat.div_eq_of_lt hbelow, Nat.add_zero] at hleap ⊢
    simp only [hleap, if_false, hdate, hparts, htotal, hnanos]

/-- A start date read back is cut to microseconds. -/
theorem ZonedTime.read_microText {t : Instant} (hclock : t.OnClock)
    (hyear : 0 ≤ t.date.year ∧ t.date.year ≤ 9999) :
    ZonedTime.read t.microText = .ok ⟨t.cut.seconds, t.cut.nanos, 0⟩ := by
  have hinRange : yearInRange t.date.year = true := by
    simp [yearInRange]
    omega
  have hvalid : t.date.isValid = true := Date.isValid_ofDayNumber hinRange
  have hday := t.secondOfDay_lt
  have hsecond := hclock.written_second.1
  have hsize : ¬byteLength t.microText.toList < 19 := by
    have := length_le_byteLength t.microText.toList
    have := t.length_microText_ge
    omega
  have hmicros : t.nanos % Time.second / 1000 < 1000000 := by
    unfold Time.second
    omega
  have hfraction := strictFraction_zeroPadded hmicros []
  have hranges : ¬(23 < t.secondOfDay / 3600 ∨ 59 < t.secondOfDay / 60 % 60 ∨
      60 < t.secondOfDay % 60 + t.nanos / Time.second) := by
    omega
  -- the reader takes the fields one after the other, each in the form it was written in
  unfold ZonedTime.read strictZoned
  simp only [hsize, if_false]
  rw [t.microText_toList]
  unfold clockChars
  simp only [List.append_assoc, List.cons_append] at hfraction ⊢
  simp only [bind, Except.bind, strictDate_dateChars hyear hvalid,
    oneOf_cons ['T', 't', ' '] 'T' rfl,
    oneOf_cons [':'] ':' rfl,
    pair_zeroPadded (show t.secondOfDay / 3600 < 100 by omega),
    pair_zeroPadded (show t.secondOfDay / 60 % 60 < 100 by omega),
    pair_zeroPadded (show t.secondOfDay % 60 + t.nanos / Time.second < 100 by omega)]
  rw [hfraction]
  simp only [if_neg hranges, strictZone, List.isEmpty_nil, if_true,
    show offsetInRange 0 = true from rfl, ZonedTime.ofFields_microText hclock]

/-- What a row says of a start time is that time, cut to microseconds. -/
theorem Row.readDate_microText {start : Option Instant}
    (h : ∀ t, start = some t → t.OnClock ∧ 0 ≤ t.date.year ∧ t.date.year ≤ 9999) :
    Row.readDate (start.map Instant.microText) = .ok (start.map Instant.cut) := by
  cases start with
  | none => rfl
  | some t =>
    obtain ⟨hclock, hyear⟩ := h t rfl
    unfold Row.readDate
    simp only [Option.map_some, ZonedTime.read_microText hclock hyear, Int.sub_zero]

/-! ## Times of documents -/

/-- What a list of readings gives comes from one of the things read. -/
theorem Option.mem_of_mapM {α β : Type} {f : α → Option β} {xs : List α} {ys : List β}
    (h : xs.mapM f = some ys) {y : β} (hy : y ∈ ys) : ∃ x ∈ xs, f x = some y := by
  induction xs generalizing ys with
  | nil =>
    cases h
    cases hy
  | cons x xs ih =>
    rw [List.mapM_cons] at h
    obtain ⟨z, hz, h⟩ := Option.bind_eq_some_iff.1 h
    obtain ⟨zs, hzs, h⟩ := Option.bind_eq_some_iff.1 h
    cases h
    rcases List.mem_cons.1 hy with rfl | hy
    · exact ⟨x, List.mem_cons_self, hz⟩
    · obtain ⟨x', hx', hfx'⟩ := ih hzs hy
      exact ⟨x', List.mem_cons_of_mem x hx', hfx'⟩

namespace Time

theorem nanosOf_lt {ds : List Char} (h : ∀ c ∈ ds, c.isDigit = true) : nanosOf ds < second := by
  have hnumber : ∀ cs : List Char, (∀ c ∈ cs, c.isDigit = true) → ∀ n,
      cs.foldl (fun n c => n * 10 + (c.toNat - '0'.toNat)) n < (n + 1) * 10 ^ cs.length := by
    intro cs
    induction cs with
    | nil => intro _ n; simp
    | cons c cs ih =>
      intro hcs n
      have hc : c.toNat - '0'.toNat ≤ 9 := by
        have hdigit := hcs c (by simp)
        have hrange := Char.isDigit_iff_toNat.1 hdigit
        have hzero : '0'.toNat = 48 := rfl
        have hnine : '9'.toNat = 57 := rfl
        omega
      have hrest := ih (fun d hd => hcs d (by simp [hd])) (n * 10 + (c.toNat - '0'.toNat))
      refine Nat.lt_of_lt_of_le hrest ?_
      rw [List.length_cons, Nat.pow_succ, ← Nat.mul_assoc, Nat.mul_right_comm]
      exact Nat.mul_le_mul_right _ (by omega)
  unfold nanosOf numberOf second
  simp only [Nat.pow_eq]
  have hkept := hnumber (ds.take 9) (fun c hc => h c (List.mem_of_mem_take hc)) 0
  have hlen : (ds.take 9).length ≤ 9 := by
    rw [List.length_take]
    omega
  calc (ds.take 9).foldl (fun n c => n * 10 + (c.toNat - '0'.toNat)) 0 * 10 ^ (9 - (ds.take 9).length)
      < 10 ^ (ds.take 9).length * 10 ^ (9 - (ds.take 9).length) := by
        exact Nat.mul_lt_mul_of_pos_right (by simpa using hkept) (Nat.pow_pos (by omega))
    _ = 1000000000 := by
        rw [← Nat.pow_add, Nat.add_sub_cancel' hlen]

theorem fraction?_lt {cs rest : List Char} {nanos : Nat} (h : fraction? cs = some (nanos, rest)) :
    nanos < second := by
  unfold fraction? at h
  split at h
  · split at h
    · cases h
    · cases h
      exact nanosOf_lt fun c hc => List.all_eq_true.1 List.all_takeWhile c hc
  · cases h
    unfold second
    omega

theorem looseOffset?_minutes {cs rest : List Char} {offset : Int}
    (h : looseOffset? cs = some (offset, rest)) : offset % 60 = 0 := by
  unfold looseOffset? at h
  split at h
  · simp only [Option.bind_eq_bind, Option.bind_eq_some_iff] at h
    obtain ⟨negative, _, ⟨hours, _⟩, _, ⟨minutes, _⟩, _, hsome⟩ := h
    split at hsome
    · cases hsome
      unfold offsetOf
      dsimp only
      split <;> omega
    · cases hsome
  · cases h

theorem zone?_minutes {cs rest : List Char} {offset : Int} (h : zone? cs = some (offset, rest)) :
    offset % 60 = 0 := by
  unfold zone? at h
  split at h
  · cases h; rfl
  · cases h; rfl
  · split at h
    · cases h; rfl
    · exact looseOffset?_minutes h
  · exact looseOffset?_minutes h

/-- Where a time of a document comes from. -/
theorem readZoned?_fields {cs : List Char} {z : ZonedTime} (h : readZoned? cs = some z) :
    ∃ date hour minute sec nanos offset, z = ZonedTime.ofFields date hour minute sec nanos offset ∧
      sec ≤ 60 ∧ nanos < second ∧ offset % 60 = 0 := by
  unfold readZoned? at h
  -- the date
  rcases Option.bind_eq_some_iff.1 h with ⟨⟨year, _⟩, _, hdate⟩
  rcases Option.bind_eq_some_iff.1 hdate with ⟨_, _, hdate⟩
  rcases Option.bind_eq_some_iff.1 hdate with ⟨⟨month, _⟩, _, hdate⟩
  rcases Option.bind_eq_some_iff.1 hdate with ⟨_, _, hdate⟩
  rcases Option.bind_eq_some_iff.1 hdate with ⟨⟨day, _⟩, _, htime⟩
  dsimp only at htime
  split at htime
  · split at htime
    · -- the time of the day
      rcases Option.bind_eq_some_iff.1 htime with ⟨_, _, htime⟩
      rcases Option.bind_eq_some_iff.1 htime with ⟨⟨hour, _⟩, _, htime⟩
      rcases Option.bind_eq_some_iff.1 htime with ⟨_, _, htime⟩
      rcases Option.bind_eq_some_iff.1 htime with ⟨⟨minute, _⟩, _, htime⟩
      rcases Option.bind_eq_some_iff.1 htime with ⟨_, _, htime⟩
      rcases Option.bind_eq_some_iff.1 htime with ⟨⟨sec, _⟩, _, htime⟩
      rcases Option.bind_eq_some_iff.1 htime with ⟨⟨nanos, _⟩, hnanos, hzone⟩
      rcases Option.bind_eq_some_iff.1 hzone with ⟨⟨offset, _⟩, hoffset, hsome⟩
      split at hsome
      · next hranges =>
        cases hsome
        simp only [Bool.and_eq_true, decide_eq_true_eq] at hranges
        exact ⟨_, hour, minute, sec, nanos, offset, rfl, hranges.1.2, fraction?_lt hnanos,
          zone?_minutes hoffset⟩
      · cases hsome
    · cases htime
  · cases htime

end Time

/-- The times of documents are those of a clock. -/
theorem Instant.read?_onClock {s : String} {t : Instant} (h : Instant.read? s = some t) :
    t.OnClock := by
  unfold Instant.read? at h
  rw [Option.bind_eq_some_iff] at h
  obtain ⟨z, hz, hinstant⟩ := h
  obtain ⟨date, hour, minute, sec, nanos, offset, rfl, hsec, hnanos, hoffset⟩ :=
    Time.readZoned?_fields hz
  unfold ZonedTime.instant? at hinstant
  dsimp only at hinstant
  split at hinstant
  · cases hinstant
    unfold Instant.OnClock ZonedTime.ofFields secondsOfDay dayLength
    unfold second at *
    by_cases hleap : sec = 60
    · simp only [hleap, if_true]
      omega
    · simp only [hleap, if_false]
      omega
  · cases hinstant

theorem Record.optional_onClock {r : Record} {name : String} {t : Instant}
    (h : r.optional name .instant = some (some t)) : t.OnClock := by
  unfold Record.optional Record.withDefault at h
  split at h
  · next doc _ =>
    unfold Decoder.nullable at h
    split at h
    · cases h
    · rw [Option.map_eq_some_iff] at h
      obtain ⟨t', ht', hsame⟩ := h
      cases hsame
      unfold Decoder.instant at ht'
      rw [Option.bind_eq_some_iff] at ht'
      obtain ⟨s, _, hread⟩ := ht'
      exact Instant.read?_onClock hread
  · cases h

theorem SourceInstance.ofRecord?_onClock {r : Record} {i : SourceInstance}
    (h : SourceInstance.ofRecord? r = some i) {t : Instant} (ht : i.startTime = some t) :
    t.OnClock := by
  unfold SourceInstance.ofRecord? at h
  simp only [Option.bind_eq_bind, Option.bind_eq_some_iff] at h
  obtain ⟨_, _, _, _, _, _, _, _, startTime, hstart, hinst⟩ := h
  cases hinst
  subst ht
  exact Record.optional_onClock hstart

/-- The start times of a snapshot that is read are those of a clock. -/
theorem SnapshotSource.read?_onClock {text : String} {s : SnapshotSource}
    (h : SnapshotSource.read? text = some s) {x : SnapshotInstance} (hx : x ∈ s.instances)
    {t : Instant} (ht : x.inst.startTime = some t) : t.OnClock := by
  unfold SnapshotSource.read? Decoder.ofText? at h
  rw [Option.map_eq_some_iff] at h
  obtain ⟨xs, hxs, rfl⟩ := h
  have hmem : x ∈ xs := (List.mergeSort_perm xs _).mem_iff.1 hx
  obtain ⟨doc, _, hdecode⟩ := Option.bind_eq_some_iff.1 hxs
  obtain ⟨r, _, hfield⟩ := Option.bind_eq_some_iff.1 hdecode
  unfold Record.withDefault at hfield
  split at hfield
  · next list _ =>
    unfold Decoder.list at hfield
    split at hfield
    · next items =>
      obtain ⟨room, _, hitems⟩ := Option.bind_eq_some_iff.1 hfield
      obtain ⟨item, _, hitem⟩ := Option.mem_of_mapM hitems hmem
      unfold SnapshotInstance.decode at hitem
      simp only [Option.bind_eq_bind, Option.bind_eq_some_iff] at hitem
      obtain ⟨_, _, _, _, _, _, _, _, hrest⟩ := hitem
      split at hrest
      · obtain ⟨_, _, hrest⟩ := Option.bind_eq_some_iff.1 hrest
        obtain ⟨_, _, hrest⟩ := Option.bind_eq_some_iff.1 hrest
        obtain ⟨inst, hinst, hrest⟩ := Option.bind_eq_some_iff.1 hrest
        cases hrest
        exact SourceInstance.ofRecord?_onClock hinst ht
      · cases hrest
    · cases hfield
  · cases hfield
    cases hmem

end ProcessMigration
