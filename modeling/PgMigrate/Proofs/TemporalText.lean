import PgMigrate.Proofs.TextReadBack
/-
  Times of day and spans written to the microsecond.

  The program: a time of day is written `HH:MM:SS` and its fraction (`clockFraction`): the
  microseconds of the sub-second part, taken modulo one second, with trailing zeros dropped and
  nothing when they are zero.  A timestamp writes its date, a blank and its time.  A span is
  written `[-][D ]HH:MM:SS[.f]` (`Duration.render`): the sign of the span, then the days,
  hours, minutes, seconds and fraction of its magnitude, the days only when there are any.

  The specification (`temporal_text_truncates_to_micros`): a span's text has that form, with
  the clock part a valid time of day of whole microseconds and the fraction at most six digits
  without a trailing zero; read with its leading `-` applying to the whole span (`readSpan?`) it
  stands for the span's microseconds, truncated toward zero.  A time of day's text reads back,
  with the `%H:%M:%S%.f` reader of timestamps (`readClock?`), as the time truncated to the
  microsecond; a leap second's extra second (the nanoseconds from `10^9` on) is not written,
  so the text of a leap second stands for second 59 (`leap_second_written_at_59`).  Timestamps
  read back alike.

  The crux: the fraction only depends on the microseconds of the sub-second part modulo one
  second (`clockFraction_written`), so every text is the text of a time of whole microseconds
  (`TimeOfDay.written`), which reads back by the clock lemmas of `TextReadBack`; and a span's
  magnitude is its nanosecond count's absolute value (`Duration.abs_nanos`).
-/
namespace PgMigrate

/-! ## The fraction of a second -/

/-- The fraction written for a sub-second part only depends on its whole microseconds below one
    second. -/
theorem clockFraction_written (n : Nat) :
    clockFraction n = clockFraction (n % 1000000000 / 1000 * 1000) := by
  have hmicros : n % 1000000000 / 1000 * 1000 % 1000000000 / 1000 = n % 1000000000 / 1000 := by
    omega
  unfold clockFraction
  rw [hmicros]

/-- What is left once the leading zeros are dropped does not start with a zero. -/
theorem head?_dropWhile_zero (l : List Char) : (l.dropWhile (· == '0')).head? ≠ some '0' := by
  intro h
  have hnot := List.head?_dropWhile_not (· == '0') l
  rw [h] at hnot
  exact absurd hnot (by decide)

/-- A fraction is nothing, or a dot and one to six digits, the last not a zero, that stand for
    the microseconds below one second. -/
theorem clockFraction_form (n : Nat) :
    clockFraction n = "" ∨
      ∃ ds : List Char, clockFraction n = "." ++ String.ofList ds ∧ ds ≠ [] ∧ ds.length ≤ 6 ∧
        (∀ c ∈ ds, c.isDigit = true) ∧ ds.getLast? ≠ some '0' ∧
        digitsValue ds * 10 ^ (6 - ds.length) = n % 1000000000 / 1000 := by
  unfold clockFraction
  dsimp only
  split
  · exact Or.inl rfl
  · rename_i hzero
    have hpos : 0 < n % 1000000000 / 1000 := by
      simp only [beq_iff_eq] at hzero
      omega
    obtain ⟨hds, hmin, hmax, hvalue⟩ := fractionDigits hpos (by omega)
    refine Or.inr ⟨_, rfl, List.ne_nil_of_length_pos hmin, hmax, hds, ?_, hvalue⟩
    -- the last digit kept is the first that was not dropped as a zero
    rw [List.getLast?_reverse]
    exact head?_dropWhile_zero _

/-! ## Times of day -/

namespace TimeOfDay

/-- The time of day a time's text writes: its hour, minute and second, and the whole
    microseconds of its sub-second part below one second. -/
def written (t : TimeOfDay) : TimeOfDay := { t with nanos := t.nanos % 1000000000 / 1000 * 1000 }

/-- The time of day in microseconds, truncated, a leap second's nanoseconds counted in. -/
def microsOfDay (t : TimeOfDay) : Nat := t.secondsOfDay * 1000000 + t.nanos / 1000

theorem render_written (t : TimeOfDay) : t.written.render = t.render := by
  simp only [render, written]
  rw [← clockFraction_written]

/-- A valid time of day: hour, minute and second in range, and the nanoseconds below one second,
    or below two on second 59 (a leap second). -/
theorem isValid_iff (t : TimeOfDay) :
    t.isValid = true ↔ t.hour < 24 ∧ t.minute < 60 ∧ t.second < 60 ∧
      (t.nanos < 1000000000 ∨ (t.second = 59 ∧ t.nanos < 2000000000)) := by
  simp only [isValid, Bool.and_eq_true, Bool.or_eq_true, decide_eq_true_eq, beq_iff_eq, and_assoc]

theorem written_isValid {t : TimeOfDay} (ht : t.isValid = true) : t.written.isValid = true := by
  -- read the checks before the fields, whose instances mention the record
  rw [isValid_iff] at ht ⊢
  simp only [written]
  omega

theorem written_onClock (t : TimeOfDay) : t.written.OnClock := by
  simp only [OnClock, written]
  omega

/-- A time of day built from a second of the day is that second again. -/
theorem secondsOfDay_ofSeconds (secs nanos : Nat) : (ofSeconds secs nanos).secondsOfDay = secs := by
  simp only [ofSeconds, secondsOfDay]
  omega

theorem microsOfDay_ofSeconds (secs micros : Nat) :
    (ofSeconds secs (micros * 1000)).microsOfDay = secs * 1000000 + micros := by
  rw [microsOfDay, secondsOfDay_ofSeconds, ofSeconds, Nat.mul_div_cancel _ (by decide : 0 < 1000)]

/-- Below a leap second, the time written is the time truncated to the microsecond. -/
theorem microsOfDay_written {t : TimeOfDay} (h : t.nanos < 1000000000) :
    t.written.microsOfDay = t.microsOfDay := by
  simp only [microsOfDay, written, secondsOfDay]
  omega

/-- A leap second is written one second early: its extra second is not written. -/
theorem microsOfDay_written_leap {t : TimeOfDay} (ht : t.isValid = true)
    (h : 1000000000 ≤ t.nanos) : t.written.microsOfDay + 1000000 = t.microsOfDay := by
  have hleap : t.nanos < 2000000000 := by
    rw [isValid_iff] at ht
    omega
  simp only [microsOfDay, written, secondsOfDay]
  omega

end TimeOfDay

/-- A time of day in the `%H:%M:%S%.f` pattern, as timestamps read their time. -/
def readClock? (s : String) : Option TimeOfDay :=
  (readFields TimePattern.clock s).bind TimeFields.toTime?

/-- A clock text, read on its own, fills in the time it writes. -/
theorem scanItems_clock_render {t : TimeOfDay} (ht : t.isValid = true) (hc : t.OnClock) :
    scanItems TimePattern.clock {} t.render.toList = some (({} : TimeFields).withClock t, []) := by
  have h := scanItems_clock ht hc [] {}
    (show ∀ c ∈ ([] : List Char).head?, c.isDigit = false ∧ c ≠ '.' by simp)
  rw [List.append_nil, List.append_nil] at h
  rw [h]
  rfl

/-- A time of day's text reads back as the time it writes. -/
theorem readClock?_render {t : TimeOfDay} (ht : t.isValid = true) :
    readClock? t.render = some t.written := by
  rw [← TimeOfDay.render_written, readClock?, readFields,
    scanItems_clock_render (TimeOfDay.written_isValid ht) (TimeOfDay.written_onClock t)]
  exact toTime?_of_clock (TimeOfDay.written_isValid ht) rfl

/-- A timestamp's text reads back as its date and the time its time writes. -/
theorem readTimestamp?_render_written {dt : DateTime} (hv : dt.isValid = true) :
    readTimestamp? dt.render = some { dt with time := dt.time.written } := by
  have hwritten : ({ dt with time := dt.time.written } : DateTime).isValid = true := by
    simp only [DateTime.isValid, Bool.and_eq_true] at hv ⊢
    exact ⟨hv.1, TimeOfDay.written_isValid hv.2⟩
  have hrender : ({ dt with time := dt.time.written } : DateTime).render = dt.render := by
    simp only [DateTime.render, TimeOfDay.render_written]
  rw [← hrender]
  exact readTimestamp?_render hwritten (TimeOfDay.written_onClock dt.time)

/-! ## Spans -/

namespace Duration

/-- A span's magnitude is its nanosecond count's absolute value, in whole seconds and the
    nanoseconds below one second. -/
theorem abs_nanos {d : Duration} (hd : d.nanos < nanosPerSecond) :
    0 ≤ d.abs.secs ∧ d.abs.nanos < nanosPerSecond ∧
      d.abs.secs.toNat * 1000000000 + d.abs.nanos = d.totalNanos.natAbs := by
  simp only [nanosPerSecond] at hd ⊢
  unfold abs totalNanos
  by_cases hneg : d.secs < 0
  · rw [if_pos hneg]
    by_cases hzero : d.nanos = 0
    · -- a whole number of seconds before zero
      rw [if_pos (by simpa using hzero)]
      dsimp only
      simp only [nanosPerSecond, hzero]
      omega
    · -- the nanoseconds count up from the second before: the magnitude borrows one second
      rw [if_neg (by simpa using hzero)]
      dsimp only
      simp only [nanosPerSecond]
      omega
  · rw [if_neg hneg]
    simp only [nanosPerSecond]
    omega

/-- A span is negative exactly when its nanosecond count is. -/
theorem isNegative_iff {d : Duration} (hd : d.nanos < nanosPerSecond) :
    d.isNegative = true ↔ d.totalNanos < 0 := by
  simp only [isNegative, totalNanos, nanosPerSecond, decide_eq_true_eq] at hd ⊢
  omega

/-- The whole days of a span's magnitude. -/
def days (d : Duration) : Nat := d.abs.secs.toNat / 86400

/-- The clock part of a span's text: the time of day of its magnitude's seconds within a day,
    with the whole microseconds of its sub-second part. -/
def clock (d : Duration) : TimeOfDay :=
  TimeOfDay.ofSeconds (d.abs.secs.toNat % 86400) (d.abs.nanos % 1000000000 / 1000 * 1000)

/-- The text of a span: its sign, its days when there are any, and its clock part. -/
theorem render_eq (d : Duration) :
    d.render = (if d.isNegative then "-" else "") ++
      (if d.days = 0 then "" else toString d.days ++ " ") ++ d.clock.render := by
  simp only [render, days, clock, TimeOfDay.render, TimeOfDay.ofSeconds, String.append_assoc]
  rw [← clockFraction_written]
  by_cases hzero : d.abs.secs.toNat / 86400 = 0
  · simp [hzero]
  · simp [hzero]

theorem clock_isValid (d : Duration) : d.clock.isValid = true := by
  rw [TimeOfDay.isValid_iff]
  simp only [clock, TimeOfDay.ofSeconds]
  omega

theorem clock_onClock (d : Duration) : d.clock.OnClock := by
  simp only [clock, TimeOfDay.ofSeconds, TimeOfDay.OnClock]
  omega

/-- The days and the clock part together make up the magnitude's whole microseconds. -/
theorem days_clock_micros {d : Duration} (hd : d.nanos < nanosPerSecond) :
    d.days * 86400000000 + d.clock.microsOfDay = d.totalNanos.natAbs / 1000 := by
  have hclock : d.clock.microsOfDay =
      d.abs.secs.toNat % 86400 * 1000000 + d.abs.nanos % 1000000000 / 1000 := by
    rw [clock, TimeOfDay.microsOfDay_ofSeconds]
  obtain ⟨-, hlt, habs⟩ := abs_nanos hd
  simp only [nanosPerSecond] at hlt
  rw [hclock, days, ← habs]
  -- only the magnitude's seconds and nanoseconds are left: the sign is out of the way
  clear hclock habs hd
  generalize d.abs.secs.toNat = S
  generalize d.abs.nanos = N at hlt ⊢
  omega

end Duration

/-- A leading `-`, if there is one, and the rest. -/
def splitSign : List Char → Bool × List Char
  | '-' :: rest => (true, rest)
  | cs => (false, cs)

/-- Days written before a blank, if there are any, and the rest. -/
def splitDays (cs : List Char) : Nat × List Char :=
  match scanDigits cs 1 cs.length with
  | some (days, ' ' :: rest) => (days, rest)
  | _ => (0, cs)

/-- The microseconds a span's text `[-][D ]HH:MM:SS[.f]` stands for, its leading `-` applying
    to the whole span. -/
def readSpan? (s : String) : Option Int :=
  let (negative, cs) := splitSign s.toList
  let (days, cs) := splitDays cs
  match scanItems TimePattern.clock {} cs with
  | some (p, []) => p.toTime?.map fun t =>
      let micros : Nat := days * 86400000000 + t.microsOfDay
      if negative then -(micros : Int) else micros
  | _ => none

theorem splitSign_minus (cs : List Char) : splitSign ('-' :: cs) = (true, cs) := rfl

theorem splitSign_digit {cs : List Char} (hc : ∀ c ∈ cs.head?, c.isDigit = true) :
    splitSign cs = (false, cs) := by
  cases cs with
  | nil => rfl
  | cons c cs =>
    have hne : c ≠ '-' := by
      rintro rfl
      exact absurd (hc '-' rfl) (by decide)
    simp [splitSign, hne]

/-- A clock text starts with the two digits of its hour and a colon. -/
theorem TimeOfDay.render_toList (t : TimeOfDay) :
    t.render.toList = (pad2 t.hour).toList ++
      ':' :: (pad2 t.minute ++ ":" ++ pad2 t.second ++ clockFraction t.nanos).toList := by
  simp only [TimeOfDay.render, String.append_assoc, String.toList_append, toList_colon,
    List.singleton_append]

/-- A clock text has no days in front: its two hour digits are followed by a colon. -/
theorem splitDays_render {t : TimeOfDay} (ht : t.isValid = true) :
    splitDays t.render.toList = (0, t.render.toList) := by
  have hb := TimeOfDay.bounds_of_isValid ht
  have hhour : ∀ c ∈ (pad2 t.hour).toList, c.isDigit = true :=
    fun c hc => isDigit_of_mem_padNat hc
  have hlen : (pad2 t.hour).toList.length = 2 := length_padNat (by decide) (by omega)
  unfold splitDays
  rw [t.render_toList, scanDigits_append hhour (by simp) (by omega) (by simp)]
  rfl

/-- Days written before a blank are read, whatever follows the blank. -/
theorem splitDays_days (days : Nat) (rest : List Char) :
    splitDays ((toString days).toList ++ ' ' :: rest) = (days, rest) := by
  have hdigits : ∀ c ∈ (toString days).toList, c.isDigit = true := by
    intro c hc
    rw [Nat.toString_eq_repr, Nat.toList_repr] at hc
    exact isDigit_of_mem_toDigits hc
  have hlen : 1 ≤ (toString days).toList.length := by
    rw [Nat.toString_eq_repr, Nat.toList_repr]
    exact List.length_pos_of_ne_nil Nat.toDigits_ne_nil
  unfold splitDays
  rw [scanDigits_append hdigits (by simp) hlen (by simp)]
  simp only [Nat.toString_eq_repr, Nat.toList_repr, digitsValue_toDigits]

namespace Duration

/-- The text of a span's magnitude: its days when there are any, and its clock part. -/
theorem splitDays_magnitude (d : Duration) :
    splitDays ((if d.days = 0 then "" else toString d.days ++ " ") ++ d.clock.render).toList =
      (d.days, d.clock.render.toList) := by
  by_cases hzero : d.days = 0
  · rw [if_pos hzero, String.empty_append, hzero]
    exact splitDays_render d.clock_isValid
  · rw [if_neg hzero, String.toList_append, String.toList_append, List.append_assoc]
    exact splitDays_days d.days _

/-- The text of a span's magnitude starts with a digit: of its days, or of its hour. -/
theorem magnitude_head_isDigit (d : Duration) :
    ∀ c ∈ ((if d.days = 0 then "" else toString d.days ++ " ") ++ d.clock.render).toList.head?,
      c.isDigit = true := by
  intro c hc
  by_cases hzero : d.days = 0
  · rw [if_pos hzero, String.empty_append, TimeOfDay.render_toList] at hc
    have hlen : (pad2 d.clock.hour).toList.length = 2 :=
      length_padNat (by decide) (by have := TimeOfDay.bounds_of_isValid d.clock_isValid; omega)
    obtain ⟨c', cs, hcs⟩ := List.exists_cons_of_length_eq_add_one hlen
    rw [hcs, List.cons_append, List.head?_cons, Option.mem_some_iff] at hc
    exact hc ▸ isDigit_of_mem_padNat (hcs ▸ List.mem_cons_self)
  · rw [if_neg hzero, String.toList_append, String.toList_append, Nat.toString_eq_repr,
      Nat.toList_repr] at hc
    obtain ⟨c', cs, hcs⟩ := List.exists_cons_of_ne_nil (Nat.toDigits_ne_nil (b := 10) (n := d.days))
    rw [hcs, List.cons_append, List.cons_append, List.head?_cons, Option.mem_some_iff] at hc
    exact hc ▸ isDigit_of_mem_toDigits (hcs ▸ List.mem_cons_self)

/-- A span's text with its sign split off: whether it is negative, and its magnitude. -/
theorem splitSign_render (d : Duration) :
    splitSign d.render.toList = (d.isNegative,
      ((if d.days = 0 then "" else toString d.days ++ " ") ++ d.clock.render).toList) := by
  rw [render_eq]
  cases d.isNegative with
  | true =>
    rw [if_pos rfl, String.append_assoc, String.toList_append]
    exact splitSign_minus _
  | false =>
    rw [if_neg Bool.false_ne_true, String.empty_append]
    exact splitSign_digit (magnitude_head_isDigit d)

end Duration

/-- A span's text stands for its microseconds, truncated toward zero. -/
theorem readSpan?_render {d : Duration} (hd : d.nanos < Duration.nanosPerSecond) :
    readSpan? d.render = some (d.totalNanos.sign * (d.totalNanos.natAbs / 1000 : Nat)) := by
  have hscan := scanItems_clock_render d.clock_isValid d.clock_onClock
  have htime := toTime?_of_clock (p := {}) d.clock_isValid rfl
  unfold readSpan?
  rw [d.splitSign_render]
  dsimp only
  rw [d.splitDays_magnitude]
  dsimp only
  rw [hscan]
  dsimp only
  rw [htime, Option.map_some, Duration.days_clock_micros hd]
  -- the sign read is the sign of the nanosecond count, and a zero span reads as zero
  rw [Option.some.injEq]
  rcases lt_trichotomy d.totalNanos 0 with hneg | hzero | hpos
  · rw [if_pos ((Duration.isNegative_iff hd).2 hneg), Int.sign_eq_neg_one_of_neg hneg]
    omega
  · rw [if_neg (by rw [Duration.isNegative_iff hd]; omega), hzero]
    rfl
  · rw [if_neg (by rw [Duration.isNegative_iff hd]; omega), Int.sign_eq_one_of_pos hpos]
    omega

/-- Temporal texts are exact up to truncation to the microsecond.  A span's text is its sign,
    its days when there are any, and a clock part that is a valid time of day of whole
    microseconds, whose fraction has at most six digits and no trailing zero; read with its
    leading `-` applying to the whole span, it stands for the span's microseconds truncated
    toward zero.  A time of day's text reads back as the time truncated to the microsecond
    below a leap second, and one second early on a leap second, whose extra second is not
    written; a timestamp's text reads back as its date and the time its time writes. -/
theorem temporal_text_truncates_to_micros :
    (∀ d : Duration, d.nanos < Duration.nanosPerSecond →
      d.render = (if d.isNegative then "-" else "") ++
          (if d.days = 0 then "" else toString d.days ++ " ") ++ d.clock.render ∧
        d.clock.isValid = true ∧ d.clock.OnClock ∧
        (clockFraction d.clock.nanos = "" ∨
          ∃ ds : List Char, clockFraction d.clock.nanos = "." ++ String.ofList ds ∧ ds ≠ [] ∧
            ds.length ≤ 6 ∧ (∀ c ∈ ds, c.isDigit = true) ∧ ds.getLast? ≠ some '0' ∧
            digitsValue ds * 10 ^ (6 - ds.length) = d.clock.nanos % 1000000000 / 1000) ∧
        readSpan? d.render = some (d.totalNanos.sign * (d.totalNanos.natAbs / 1000 : Nat))) ∧
    (∀ t : TimeOfDay, t.isValid = true →
      readClock? t.render = some t.written ∧
        (t.nanos < 1000000000 → t.written.microsOfDay = t.microsOfDay) ∧
        (1000000000 ≤ t.nanos → t.written.microsOfDay + 1000000 = t.microsOfDay)) ∧
    (∀ dt : DateTime, dt.isValid = true →
      readTimestamp? dt.render = some { dt with time := dt.time.written }) := by
  refine ⟨fun d hd => ?span, fun t ht => ?time, fun dt hdt => readTimestamp?_render_written hdt⟩
  case span =>
    exact ⟨d.render_eq, d.clock_isValid, d.clock_onClock, clockFraction_form d.clock.nanos,
      readSpan?_render hd⟩
  case time =>
    exact ⟨readClock?_render ht, TimeOfDay.microsOfDay_written,
      TimeOfDay.microsOfDay_written_leap ht⟩

/-- A span a little over a day before zero, a leap second and a timestamp on it: each meets
    the conditions, and each text reads back as said. -/
theorem leapEve_texts_read_back :
    let d : Duration := { secs := -90062, nanos := 999999 }
    let t : TimeOfDay := ⟨23, 59, 59, 1500000000⟩
    let dt : DateTime := ⟨⟨1997, 12, 17⟩, t⟩
    d.nanos < Duration.nanosPerSecond ∧ t.isValid = true ∧ dt.isValid = true ∧
      readSpan? d.render = some (d.totalNanos.sign * (d.totalNanos.natAbs / 1000 : Nat)) ∧
      readClock? t.render = some t.written ∧
      readTimestamp? dt.render = some { dt with time := dt.time.written } := by
  intro d t dt
  have hd : d.nanos < Duration.nanosPerSecond := by decide
  have ht : t.isValid = true := by decide
  have hdt : dt.isValid = true := by decide
  obtain ⟨hspan, htime, hstamp⟩ := temporal_text_truncates_to_micros
  exact ⟨hd, ht, hdt, (hspan d hd).2.2.2.2, (htime t ht).1, hstamp dt hdt⟩

/-- The leap second 23:59:60.5 (second 59 and one and a half seconds of nanoseconds) is written
    23:59:59.5, which reads back one second before it. -/
theorem leap_second_written_at_59 :
    let t : TimeOfDay := ⟨23, 59, 59, 1500000000⟩
    t.isValid = true ∧ t.render = "23:59:59.5" ∧
      (readClock? t.render).map TimeOfDay.microsOfDay ≠ some t.microsOfDay := by
  intro t
  have ht : t.isValid = true := by decide
  refine ⟨ht, by decide, ?_⟩
  rw [readClock?_render ht]
  decide

end PgMigrate
