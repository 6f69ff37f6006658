import Mathlib
import PgMigrate.Binary.Read
import PgMigrate.Time.Parse
import PgMigrate.Time.Text
/-
  Decimal, date and time texts read back.

  The writers put numbers down as ASCII digits, padded with zeros to a width; dates as
  `YYYY-MM-DD`, with a sign on a year outside 0 to 9999; clock times as `HH:MM:SS` and the
  microseconds with their trailing zeros dropped; offsets as `±HH:MM`.  The readers scan the
  same patterns.  Each text is read back to the value written, as long as what follows it
  cannot extend it (no digit after a number, no `.` after a clock time) and the value is one
  the writer puts down in full: a date that exists, a time of day of whole microseconds and
  no leap second, an offset of whole minutes.

  Each pattern is read by a lemma that takes the text written followed by anything that
  cannot extend it, and names the fields it fills in; the readers are those lemmas in
  sequence.

  Main statements:
  * `scanDigits_append`: a run of digits is read whole, up to the first character that is
    not one;
  * `readInteger?_toString`: an integer within the bounds reads back from its decimal text;
  * `readDate?_render`, `readTimestamp?_render`, `readZoned?_render`: a date, a timestamp and
    a timestamp with its offset read back from their text.
-/
namespace PgMigrate

/-! ## Digit strings -/

theorem digitsValue_eq_ofDigitChars (cs : List Char) :
    digitsValue cs = Nat.ofDigitChars 10 cs 0 := by
  unfold digitsValue Nat.ofDigitChars digitValue
  congr 1
  funext acc c
  rw [Nat.mul_comm]

@[simp] theorem digitsValue_toDigits (n : Nat) : digitsValue (Nat.toDigits 10 n) = n := by
  rw [digitsValue_eq_ofDigitChars, Nat.ofDigitChars_ten_toDigits]

theorem isDigit_of_mem_toDigits {n : Nat} {c : Char} (h : c ∈ Nat.toDigits 10 n) :
    c.isDigit = true :=
  Nat.isDigit_of_mem_toDigits (by decide) (by decide) h

/-- A number padded with zeros to a width. -/
theorem toList_padNat (n width : Nat) :
    (padNat n width).toList =
      List.replicate (width - (Nat.toDigits 10 n).length) '0' ++ Nat.toDigits 10 n := by
  have hlen : n.repr.length = (Nat.toDigits 10 n).length := by
    rw [← String.length_toList, Nat.toList_repr]
  simp [padNat, Nat.toString_eq_repr, hlen]

theorem isDigit_of_mem_padNat {n width : Nat} {c : Char} (h : c ∈ (padNat n width).toList) :
    c.isDigit = true := by
  rw [toList_padNat] at h
  rcases List.mem_append.1 h with h | h
  · rw [List.eq_of_mem_replicate h]
    rfl
  · exact isDigit_of_mem_toDigits h

@[simp] theorem digitsValue_padNat (n width : Nat) : digitsValue (padNat n width).toList = n := by
  rw [toList_padNat, digitsValue_eq_ofDigitChars, Nat.ofDigitChars_append,
    Nat.ofDigitChars_replicate_zero, Nat.mul_zero, Nat.ofDigitChars_ten_toDigits]

/-- A number below `10 ^ width` takes exactly `width` characters. -/
theorem length_padNat {n width : Nat} (hw : 0 < width) (h : n < 10 ^ width) :
    (padNat n width).toList.length = width := by
  have hlen := (Nat.length_toDigits_le_iff (by decide) hw).2 h
  rw [toList_padNat, List.length_append, List.length_replicate]
  omega

/-- Two digits, for a number below a hundred. -/
theorem toList_pad2 {n : Nat} (h : n < 100) :
    (pad2 n).toList = [Nat.digitChar (n / 10), Nat.digitChar (n % 10)] := by
  unfold pad2
  rw [toList_padNat]
  by_cases h10 : n < 10
  · rw [Nat.toDigits_of_lt_base h10, Nat.div_eq_of_lt h10, Nat.mod_eq_of_lt h10]
    rfl
  · rw [Nat.toDigits_of_base_le (by decide) (by omega),
      Nat.toDigits_of_lt_base (show n / 10 < 10 by omega)]
    rfl

/-- What the ASCII digit of a number below ten stands for. -/
theorem digitValue_digitChar {n : Nat} (h : n < 10) : n.digitChar.toNat - '0'.toNat = n :=
  Nat.toNat_digitChar_sub_48_of_lt_ten h

/-- Digits are read up to the first character that is not one: all of them, when there are
    at least `min` and at most `max`. -/
theorem scanDigits_append {ds rest : List Char} {min max : Nat}
    (hds : ∀ c ∈ ds, c.isDigit = true) (hstop : ∀ c ∈ rest.head?, c.isDigit = false)
    (hmin : min ≤ ds.length) (hmax : ds.length ≤ max) :
    scanDigits (ds ++ rest) min max = some (digitsValue ds, rest) := by
  have htake : (ds ++ rest).takeWhile Char.isDigit = ds := by
    rw [List.takeWhile_append_of_pos hds]
    cases rest with
    | nil => simp
    | cons c _ => simp [hstop c rfl]
  unfold scanDigits
  rw [htake, List.take_of_length_le hmax, if_neg (by omega), List.drop_left]
  rfl

/-! ## Integers -/

theorem allDigits_toDigits (n : Nat) : allDigits (Nat.toDigits 10 n) = true := by
  simp only [allDigits, Bool.and_eq_true, Bool.not_eq_true', List.isEmpty_eq_false_iff,
    List.all_eq_true]
  exact ⟨Nat.toDigits_ne_nil, fun c hc => isDigit_of_mem_toDigits hc⟩

/-- An integer within the bounds reads back from its decimal text. -/
theorem readInteger?_toString {n lo hi : Int} (h : lo ≤ n ∧ n ≤ hi) :
    readInteger? (toString n) true lo hi = some n := by
  unfold readInteger?
  cases n with
  | ofNat m =>
    have hl : (toString (Int.ofNat m)).toList = Nat.toDigits 10 m := by
      simp [Int.toString_eq_repr, Int.repr]
    obtain ⟨c, cs, hcs⟩ := List.exists_cons_of_ne_nil (Nat.toDigits_ne_nil (b := 10) (n := m))
    have hc : c.isDigit = true := isDigit_of_mem_toDigits (hcs ▸ List.mem_cons_self)
    rw [hl, hcs]
    split
    rename_i negative digits hsplit
    -- a leading digit is neither sign
    have hnd : negative = false ∧ digits = c :: cs := by
      split at hsplit <;> simp_all
    obtain ⟨rfl, rfl⟩ := hnd
    rw [← hcs, allDigits_toDigits]
    simpa using h
  | negSucc m =>
    have hl : (toString (Int.negSucc m)).toList = '-' :: Nat.toDigits 10 (m + 1) := by
      simp [Int.toString_eq_repr, Int.repr]
    rw [hl]
    simp only [↓reduceIte, allDigits_toDigits, digitsValue_toDigits]
    rw [if_pos (by simpa [Int.negSucc_eq] using h)]
    rfl

/-! ## Patterns of fields -/

theorem isWhiteSpace_of_isDigit {c : Char} (h : c.isDigit = true) :
    Unicode.isWhiteSpace c = false := by
  simp only [Char.isDigit, Bool.and_eq_true, decide_eq_true_eq] at h
  have h1 : 48 ≤ c.toNat := h.1
  have h2 : c.toNat ≤ 57 := h.2
  simp only [Unicode.isWhiteSpace, Bool.or_eq_false_iff, Bool.and_eq_false_imp, decide_eq_true_eq,
    decide_eq_false_iff_not, beq_eq_false_iff_ne, ne_eq]
  omega

/-- Nothing is trimmed from the front of a text that starts with something else than white
    space. -/
theorem trimStartChars_cons {c : Char} (h : Unicode.isWhiteSpace c = false) (cs : List Char) :
    trimStartChars (c :: cs) = c :: cs := by
  simp [trimStartChars, h]

theorem scanItems_numeric {f : TimeField} {items : List TimeItem} {p q : TimeFields}
    {cs rest : List Char} {v : Int} (hscan : scanNumeric f cs = some (v, rest))
    (hset : p.set f v = some q) :
    scanItems (.numeric f :: items) p cs = scanItems items q rest := by
  simp [scanItems, hscan, hset]

theorem scanItems_literal (c : Char) (items : List TimeItem) (p : TimeFields)
    (rest : List Char) :
    scanItems (.literal [c] :: items) p (c :: rest) = scanItems items p rest := by
  simp [scanItems]

/-- A field of two digits is read back, when no digit follows. -/
theorem scanNumeric_pad2 {f : TimeField} (hf : f ≠ .year) {n : Nat} (hn : n < 100)
    {rest : List Char} (hstop : ∀ c ∈ rest.head?, c.isDigit = false) :
    scanNumeric f ((pad2 n).toList ++ rest) = some ((n : Int), rest) := by
  have hds : ∀ c ∈ (pad2 n).toList, c.isDigit = true := fun c hc => isDigit_of_mem_padNat hc
  have hlen : (pad2 n).toList.length = 2 := length_padNat (by decide) hn
  obtain ⟨d, ds, hcons⟩ : ∃ d ds, (pad2 n).toList = d :: ds :=
    List.exists_cons_of_length_eq_add_one hlen
  have hd : Unicode.isWhiteSpace d = false := isWhiteSpace_of_isDigit (hds d (by simp [hcons]))
  unfold scanNumeric
  rw [hcons, List.cons_append, trimStartChars_cons hd, ← List.cons_append, ← hcons,
    if_neg (by simpa using hf), scanDigits_append hds hstop (by omega) (by omega)]
  simp [pad2]

/-- After a sign, a year takes all the digits that follow, negated after `-`. -/
theorem scanNumeric_signed {sign : Char} (hsign : sign = '-' ∨ sign = '+') {ds rest : List Char}
    (hds : ∀ c ∈ ds, c.isDigit = true) (hlen : 1 ≤ ds.length)
    (hstop : ∀ c ∈ rest.head?, c.isDigit = false) :
    scanNumeric .year (sign :: (ds ++ rest)) =
      some (if sign = '-' then -(digitsValue ds : Int) else digitsValue ds, rest) := by
  have hmax : ds.length ≤ (ds ++ rest).length := by simp
  unfold scanNumeric
  rcases hsign with rfl | rfl
  · rw [trimStartChars_cons (by decide)]
    simp only [beq_self_eq_true, ↓reduceIte]
    rw [scanDigits_append hds hstop hlen hmax]
    rfl
  · rw [trimStartChars_cons (by decide)]
    simp only [beq_self_eq_true, ↓reduceIte]
    rw [scanDigits_append hds hstop hlen hmax]
    rfl

/-- A year is read back from its text, signed or of four digits, when no digit follows. -/
theorem scanNumeric_yearText (y : Int) {rest : List Char}
    (hstop : ∀ c ∈ rest.head?, c.isDigit = false) :
    scanNumeric .year ((Date.yearText y).toList ++ rest) = some (y, rest) := by
  unfold Date.yearText
  split
  case isTrue hy =>
    -- four digits: the first is no sign
    have hds : ∀ c ∈ (padNat y.toNat 4).toList, c.isDigit = true :=
      fun c hc => isDigit_of_mem_padNat hc
    have hlen : (padNat y.toNat 4).toList.length = 4 := length_padNat (by decide) (by omega)
    obtain ⟨d, ds, hcons⟩ : ∃ d ds, (padNat y.toNat 4).toList = d :: ds :=
      List.exists_cons_of_length_eq_add_one hlen
    have hdigit : d.isDigit = true := hds d (by simp [hcons])
    unfold scanNumeric
    rw [hcons, List.cons_append, trimStartChars_cons (isWhiteSpace_of_isDigit hdigit)]
    simp only [beq_self_eq_true, ↓reduceIte]
    generalize htl : ds ++ rest = tl
    split
    case h_1 rest' heq => simp only [List.cons.injEq] at heq; simp [heq.1] at hdigit
    case h_2 rest' heq => simp only [List.cons.injEq] at heq; simp [heq.1] at hdigit
    case h_3 =>
      rw [← htl, ← List.cons_append, ← hcons,
        scanDigits_append hds hstop (by omega) (by omega)]
      simp only [digitsValue_padNat, Option.map_some]
      rw [Int.toNat_of_nonneg hy.1]
  case isFalse hy =>
    -- a sign, then the digits of the magnitude, as many as there are
    have hlen : 1 ≤ (padNat y.natAbs 4).toList.length := by
      have := @Nat.length_toDigits_pos 10 y.natAbs
      rw [toList_padNat, List.length_append]
      omega
    have hsign : (if y < 0 then "-" else "+").toList = [if y < 0 then '-' else '+'] := by
      split <;> rfl
    simp only [String.toList_append, hsign, List.cons_append, List.nil_append]
    rw [scanNumeric_signed (by split <;> simp) (fun c hc => isDigit_of_mem_padNat hc) hlen hstop,
      digitsValue_padNat]
    split
    · simp only [↓reduceIte, Option.some.injEq, Prod.mk.injEq, and_true]
      omega
    · simp only [show ('+' = '-') = False from by decide, ↓reduceIte, Option.some.injEq,
        Prod.mk.injEq, and_true]
      omega

/-! ## Dates -/

namespace TimeFields

variable {p : TimeFields}

theorem set_year {y : Int} (h : -2147483648 ≤ y ∧ y ≤ 2147483647) :
    p.set .year y = some { p with year := some y } := by
  simp [set, h]

theorem set_month {m : Nat} (h : 1 ≤ m ∧ m ≤ 12) :
    p.set .month m = some { p with month := some m } := by
  simp only [set, Int.toNat_natCast]
  rw [if_pos (by omega)]

theorem set_day {d : Nat} (h : 1 ≤ d ∧ d ≤ 31) :
    p.set .day d = some { p with day := some d } := by
  simp only [set, Int.toNat_natCast]
  rw [if_pos (by omega)]

theorem set_hour {h : Nat} (hh : h ≤ 23) :
    p.set .hour h = some { p with hour := some h } := by
  simp only [set, Int.toNat_natCast]
  rw [if_pos (by omega)]

theorem set_minute {m : Nat} (h : m ≤ 59) :
    p.set .minute m = some { p with minute := some m } := by
  simp only [set, Int.toNat_natCast]
  rw [if_pos (by omega)]

theorem set_second {s : Nat} (h : s ≤ 60) :
    p.set .second s = some { p with second := some s } := by
  simp only [set, Int.toNat_natCast]
  rw [if_pos (by omega)]

end TimeFields

@[simp] theorem toList_dash : "-".toList = ['-'] := rfl
@[simp] theorem toList_colon : ":".toList = [':'] := rfl
@[simp] theorem toList_space : " ".toList = [' '] := rfl

theorem Date.daysInMonth_le (y : Int) (m : Nat) : Date.daysInMonth y m ≤ 31 := by
  unfold Date.daysInMonth
  split <;> (try split) <;> omega

/-- What a valid date's fields are bounded by. -/
theorem Date.bounds_of_isValid {d : Date} (hd : d.isValid = true) :
    Date.minYear ≤ d.year ∧ d.year ≤ Date.maxYear ∧ 1 ≤ d.month ∧ d.month ≤ 12 ∧
      1 ≤ d.day ∧ d.day ≤ 31 := by
  simp only [Date.isValid, Bool.and_eq_true, decide_eq_true_eq] at hd
  have := Date.daysInMonth_le d.year d.month
  omega

/-- The fields a date's text fills in over `p`. -/
def TimeFields.withDate (p : TimeFields) (d : Date) : TimeFields :=
  { p with year := some d.year, month := some d.month, day := some d.day }

/-- A date's text fills in the year, the month and the day, when no digit follows it. -/
theorem scanItems_date {d : Date} (hd : d.isValid = true) (items : List TimeItem)
    (p : TimeFields) {rest : List Char} (hstop : ∀ c ∈ rest.head?, c.isDigit = false) :
    scanItems (TimePattern.date ++ items) p (d.render.toList ++ rest) =
      scanItems items (p.withDate d) rest := by
  have hb := Date.bounds_of_isValid hd
  have hy : -2147483648 ≤ d.year ∧ d.year ≤ 2147483647 := by
    unfold Date.minYear Date.maxYear at hb
    omega
  have hdash : ∀ (cs : List Char), ∀ c ∈ ('-' :: cs).head?, c.isDigit = false := by
    simp
  simp only [Date.render, String.toList_append, List.append_assoc, toList_dash, TimePattern.date,
    List.cons_append, List.nil_append]
  rw [scanItems_numeric (scanNumeric_yearText _ (hdash _)) (TimeFields.set_year hy),
    scanItems_literal,
    scanItems_numeric (scanNumeric_pad2 (by decide) (by omega) (hdash _))
      (TimeFields.set_month (by omega)),
    scanItems_literal,
    scanItems_numeric (scanNumeric_pad2 (by decide) (by omega) hstop)
      (TimeFields.set_day (by omega))]
  rfl

theorem toDate?_withDate {d : Date} (hd : d.isValid = true) (p : TimeFields) :
    (p.withDate d).toDate? = some d := by
  simp [TimeFields.withDate, TimeFields.toDate?, Date.mk?, hd]

/-- A date that exists reads back from its text. -/
theorem readDate?_render {d : Date} (hd : d.isValid = true) : readDate? d.render = some d := by
  have hscan := scanItems_date hd [] {}
    (show ∀ c ∈ ([] : List Char).head?, c.isDigit = false by simp)
  simp only [List.append_nil] at hscan
  simp only [readDate?, readFields, hscan, scanItems, List.isEmpty_nil, ↓reduceIte,
    Option.bind_eq_bind, Option.bind_some]
  exact toDate?_withDate hd {}

/-! ## Times of day -/

/-- A time of day its clock text writes in full: whole microseconds, and no leap second. -/
def TimeOfDay.OnClock (t : TimeOfDay) : Prop := t.nanos % 1000 = 0 ∧ t.nanos < 1000000000

instance (t : TimeOfDay) : Decidable t.OnClock := inferInstanceAs (Decidable (_ ∧ _))

/-- Dropping the trailing zeros of a digit string leaves a prefix, followed by zeros only. -/
theorem exists_eq_append_zeros (l : List Char) :
    ∃ k, l = (l.reverse.dropWhile (· == '0')).reverse ++ List.replicate k '0' := by
  obtain ⟨k, hk⟩ : ∃ k, l.reverse.takeWhile (· == '0') = List.replicate k '0' :=
    ⟨_, List.eq_replicate_iff.2 ⟨rfl, fun c hc => by simpa using List.mem_takeWhile_imp hc⟩⟩
  refine ⟨k, ?_⟩
  conv => lhs; rw [← List.reverse_reverse l,
    ← List.takeWhile_append_dropWhile (p := (· == '0')) (l := l.reverse)]
  rw [List.reverse_append, hk, List.reverse_replicate]

/-- The digits of a fraction with its trailing zeros dropped still say how many
    millionths there are: `micros` is what they stand for, shifted by the zeros dropped. -/
theorem fractionDigits {micros : Nat} (hpos : 0 < micros) (hlt : micros < 1000000) :
    let ds := ((padNat micros 6).toList.reverse.dropWhile (· == '0')).reverse
    (∀ c ∈ ds, c.isDigit = true) ∧ 1 ≤ ds.length ∧ ds.length ≤ 6 ∧
      digitsValue ds * 10 ^ (6 - ds.length) = micros := by
  intro ds
  have hlen : (padNat micros 6).toList.length = 6 := length_padNat (by decide) hlt
  obtain ⟨k, hsplit⟩ := exists_eq_append_zeros (padNat micros 6).toList
  have hvalue : digitsValue ds * 10 ^ k = micros := by
    have h := digitsValue_padNat micros 6
    rw [hsplit, digitsValue_eq_ofDigitChars, Nat.ofDigitChars_append,
      Nat.ofDigitChars_replicate_zero, ← digitsValue_eq_ofDigitChars] at h
    rw [Nat.mul_comm]
    exact h
  have hk : ds.length + k = 6 := by
    rw [← hlen, hsplit, List.length_append, List.length_replicate]
  refine ⟨fun c hc => isDigit_of_mem_padNat (by rw [hsplit]; exact List.mem_append_left _ hc),
    ?_, by omega, by rw [show 6 - ds.length = k by omega]; exact hvalue⟩
  -- nothing is left only when the number was zero
  rcases Nat.eq_zero_or_pos ds.length with h | h
  · rw [List.length_eq_zero_iff.1 h] at hvalue
    simp [digitsValue] at hvalue
    omega
  · exact h

theorem dropWhile_isDigit_of_stop {rest : List Char}
    (hstop : ∀ c ∈ rest.head?, c.isDigit = false) : rest.dropWhile Char.isDigit = rest := by
  cases rest with
  | nil => rfl
  | cons c cs => simp [hstop c rfl]

/-- The fraction of a clock time fills in the nanoseconds, when there are any, and nothing when
    there are none. -/
theorem scanItems_fraction {t : TimeOfDay} (hc : t.OnClock) (items : List TimeItem)
    (p : TimeFields) {rest : List Char}
    (hstop : ∀ c ∈ rest.head?, c.isDigit = false ∧ c ≠ '.') :
    scanItems (.fraction :: items) p ((clockFraction t.nanos).toList ++ rest) =
      scanItems items { p with nanos := if t.nanos = 0 then p.nanos else some t.nanos } rest := by
  obtain ⟨hwhole, hleap⟩ := hc
  have hmicros : t.nanos % 1000000000 / 1000 = t.nanos / 1000 := by
    rw [Nat.mod_eq_of_lt hleap]
  unfold clockFraction
  simp only [hmicros]
  by_cases hzero : t.nanos / 1000 = 0
  · -- no fraction is written, and none is read
    have hn : t.nanos = 0 := by omega
    simp only [beq_self_eq_true, ↓reduceIte, hn, String.toList_empty, List.nil_append,
      scanItems]
    split
    · rename_i r _
      simp at hstop
    · rfl
  · obtain ⟨hds, hmin, hmax, hvalue⟩ :=
      @fractionDigits (t.nanos / 1000) (by omega) (by omega)
    have hdigits : ∀ c ∈ rest.head?, c.isDigit = false := fun c hc => (hstop c hc).1
    simp only [beq_iff_eq, hzero, ↓reduceIte, String.toList_append, String.toList_ofList,
      List.append_assoc]
    rw [show ".".toList = ['.'] from rfl, List.singleton_append]
    generalize ((padNat (t.nanos / 1000) 6).toList.reverse.dropWhile (· == '0')).reverse = ds
      at hds hmin hmax hvalue ⊢
    simp only [scanItems, scanFraction]
    rw [scanDigits_append hds hdigits (by omega) (by omega)]
    simp only [Option.bind_eq_bind, Option.bind_some, Option.pure_def, List.length_append,
      Nat.add_sub_cancel, dropWhile_isDigit_of_stop hdigits]
    -- the digits kept, shifted past the nine places of nanoseconds
    have hnanos : digitsValue ds * Nat.pow 10 (9 - ds.length) = t.nanos :=
      calc digitsValue ds * Nat.pow 10 (9 - ds.length)
          = digitsValue ds * 10 ^ (6 - ds.length) * 10 ^ 3 := by
            rw [Nat.mul_assoc, ← Nat.pow_add]
            congr 2
            omega
        _ = t.nanos := by rw [hvalue]; omega
    rw [hnanos, if_neg (show ¬ t.nanos = 0 by omega)]

/-- The fields a clock time's text fills in over `p`. -/
def TimeFields.withClock (p : TimeFields) (t : TimeOfDay) : TimeFields :=
  { p with hour := some t.hour, minute := some t.minute, second := some t.second,
           nanos := if t.nanos = 0 then p.nanos else some t.nanos }

/-- What a valid time of day's fields are bounded by. -/
theorem TimeOfDay.bounds_of_isValid {t : TimeOfDay} (ht : t.isValid = true) :
    t.hour ≤ 23 ∧ t.minute ≤ 59 ∧ t.second ≤ 59 := by
  simp only [TimeOfDay.isValid, Bool.and_eq_true, decide_eq_true_eq] at ht
  omega

theorem clockFraction_stop (nanos : Nat) {rest : List Char}
    (hstop : ∀ c ∈ rest.head?, c.isDigit = false ∧ c ≠ '.') :
    ∀ c ∈ ((clockFraction nanos).toList ++ rest).head?, c.isDigit = false := by
  unfold clockFraction
  dsimp only
  split
  · simpa using fun c hc => (hstop c hc).1
  · simp [show ".".toList = ['.'] from rfl]

/-- A clock time's text fills in the hour, the minute, the second and the nanoseconds (when
    there are any), when neither a digit nor a `.` follows it. -/
theorem scanItems_clock {t : TimeOfDay} (ht : t.isValid = true) (hc : t.OnClock)
    (items : List TimeItem) (p : TimeFields) {rest : List Char}
    (hstop : ∀ c ∈ rest.head?, c.isDigit = false ∧ c ≠ '.') :
    scanItems (TimePattern.clock ++ items) p (t.render.toList ++ rest) =
      scanItems items (p.withClock t) rest := by
  have hb := TimeOfDay.bounds_of_isValid ht
  have hcolon : ∀ (cs : List Char), ∀ c ∈ (':' :: cs).head?, c.isDigit = false := by
    simp
  simp only [TimeOfDay.render, String.toList_append, List.append_assoc, toList_colon,
    TimePattern.clock, List.cons_append, List.nil_append]
  rw [scanItems_numeric (scanNumeric_pad2 (by decide) (by omega) (hcolon _))
      (TimeFields.set_hour (by omega)),
    scanItems_literal,
    scanItems_numeric (scanNumeric_pad2 (by decide) (by omega) (hcolon _))
      (TimeFields.set_minute (by omega)),
    scanItems_literal,
    scanItems_numeric (scanNumeric_pad2 (by decide) (by omega) (clockFraction_stop _ hstop))
      (TimeFields.set_second (by omega)),
    scanItems_fraction hc _ _ hstop]
  rfl

/-- The fields of a clock time name it back, when no nanoseconds were read before. -/
theorem toTime?_of_clock {t : TimeOfDay} (ht : t.isValid = true) {p : TimeFields}
    (hp : p.nanos = none) :
    (p.withClock t).toTime? = some t := by
  have hb := TimeOfDay.bounds_of_isValid ht
  have hnanos : (if t.nanos = 0 then p.nanos else some t.nanos).getD 0 = t.nanos := by
    split <;> simp_all
  unfold TimeFields.toTime? TimeFields.withClock
  simp only [Option.bind_eq_bind, Option.bind_some, Option.isSome_some, ↓reduceIte, hnanos,
    Option.isNone_some, Bool.false_and, Bool.false_eq_true]
  -- a second below 60 is no leap second
  split
  case h_1 _ heq =>
    simp only [Option.some.injEq] at heq
    omega
  case h_2 _ s _ heq =>
    simp only [Option.some.injEq] at heq
    subst heq
    simp [TimeOfDay.mk?, ht]
  case h_3 _ heq => cases heq

/-! ## Offsets -/

theorem digitChar_le_five :
    ∀ d, d ≤ 5 → '0' ≤ Nat.digitChar d ∧ Nat.digitChar d ≤ '5' := by
  decide

/-- An offset's text after its sign: the hours, a colon, and the minutes, two digits each. -/
theorem scanOffset_sign {c : Char} {negative : Bool}
    (hc : c = '+' ∧ negative = false ∨ c = '-' ∧ negative = true) {hours minutes : Nat}
    (hh : hours < 100) (hm : minutes < 60) (rest : List Char) :
    scanOffset false (c :: ((pad2 hours).toList ++ ':' :: ((pad2 minutes).toList ++ rest))) =
      some (if negative then -((hours * 3600 + minutes * 60 : Nat) : Int)
        else ((hours * 3600 + minutes * 60 : Nat) : Int), rest) := by
  have hdig : ∀ d, d < 10 → (Nat.digitChar d).isDigit = true := fun d hd => by
    simp [Nat.isDigit_digitChar, hd]
  have hdrop : ∀ cs, List.dropWhile (fun c => c == ':' || Unicode.isWhiteSpace c)
      (':' :: (minutes / 10).digitChar :: cs) = (minutes / 10).digitChar :: cs := fun cs => by
    have h1 : Nat.digitChar (minutes / 10) ≠ ':' := Nat.digitChar_ne _ (by decide)
    rw [List.dropWhile_cons_of_pos (by decide), List.dropWhile_cons_of_neg (by
      simp [h1, isWhiteSpace_of_isDigit (hdig _ (show minutes / 10 < 10 by omega))])]
  have hsign :
      trimStartChars (c :: ((pad2 hours).toList ++ ':' :: ((pad2 minutes).toList ++ rest))) =
      c :: ((pad2 hours).toList ++ ':' :: ((pad2 minutes).toList ++ rest)) :=
    trimStartChars_cons (by rcases hc with ⟨rfl, _⟩ | ⟨rfl, _⟩ <;> decide) _
  have hfive := digitChar_le_five (minutes / 10) (by omega)
  unfold scanOffset
  rw [hsign]
  simp only [toList_pad2 hh, toList_pad2 (show minutes < 100 by omega), List.cons_append,
    List.nil_append, Bool.false_and, Bool.false_eq_true, ↓reduceIte, Option.bind_eq_bind,
    hdrop, hdig _ (show hours / 10 < 10 by omega), hdig _ (show hours % 10 < 10 by omega),
    hdig _ (show minutes % 10 < 10 by omega), Bool.and_self, Bool.not_true, hfive, and_self,
    digitValue_digitChar (show hours / 10 < 10 by omega),
    digitValue_digitChar (show hours % 10 < 10 by omega),
    digitValue_digitChar (show minutes / 10 < 10 by omega),
    digitValue_digitChar (show minutes % 10 < 10 by omega)]
  have hval : ((hours / 10 * 10 + hours % 10 : Nat) : Int) * 3600 +
      ((minutes / 10 * 10 + minutes % 10 : Nat) : Int) * 60 =
        ((hours * 3600 + minutes * 60 : Nat) : Int) := by
    omega
  -- the sign read decides which way the offset goes
  rcases hc with ⟨rfl, rfl⟩ | ⟨rfl, rfl⟩
  · simp only [beq_self_eq_true, ↓reduceIte, Option.bind_some, Bool.false_eq_true, hval]
  · simp only [show ('-' == '+') = false from rfl, Bool.false_eq_true, ↓reduceIte,
      beq_self_eq_true, Bool.true_or, Option.bind_some, hval]

/-- An offset within a day, of whole minutes, reads back from its text. -/
theorem scanOffset_offsetText {o : Int} (ho : isValidOffset o = true) (hm : o % 60 = 0)
    (rest : List Char) : scanOffset false ((offsetText o).toList ++ rest) = some (o, rest) := by
  simp only [isValidOffset, Bool.and_eq_true, decide_eq_true_eq] at ho
  have hsplit : o.natAbs / 3600 * 3600 + o.natAbs % 3600 / 60 * 60 = o.natAbs := by omega
  unfold offsetText
  simp only [String.toList_append, List.append_assoc, toList_colon, List.cons_append,
    List.nil_append]
  by_cases hneg : o < 0
  · rw [if_pos hneg, show "-".toList = ['-'] from rfl, List.singleton_append,
      scanOffset_sign (.inr ⟨rfl, rfl⟩) (by omega) (by omega), if_pos rfl, hsplit]
    congr 2
    omega
  · rw [if_neg hneg, show "+".toList = ['+'] from rfl, List.singleton_append,
      scanOffset_sign (.inl ⟨rfl, rfl⟩) (by omega) (by omega), if_neg (by decide), hsplit]
    congr 2
    omega

/-! ## Timestamps -/

theorem scanItems_blank_space (items : List TimeItem) (p : TimeFields) {cs : List Char}
    (hcs : ∀ c ∈ cs.head?, Unicode.isWhiteSpace c = false) :
    scanItems (.blank :: items) p (' ' :: cs) = scanItems items p cs := by
  have hkeep : trimStartChars cs = cs := by
    cases cs with
    | nil => rfl
    | cons c cs => exact trimStartChars_cons (hcs c rfl) cs
  have hspace : trimStartChars (' ' :: cs) = cs := by
    rw [trimStartChars, List.dropWhile_cons_of_pos (by decide), ← trimStartChars, hkeep]
  simp only [scanItems, hspace]

theorem render_head_not_white (t : TimeOfDay) (hh : t.hour < 100) (rest : List Char) :
    ∀ c ∈ (t.render.toList ++ rest).head?, Unicode.isWhiteSpace c = false := by
  simp only [TimeOfDay.render, String.toList_append, List.append_assoc, toList_pad2 hh,
    List.cons_append, List.head?_cons, Option.mem_def, Option.some.injEq, forall_eq']
  exact isWhiteSpace_of_isDigit (by simp [Nat.isDigit_digitChar]; omega)

/-- A timestamp's text fills in its date and its clock time, when neither a digit nor a `.`
    follows it. -/
theorem scanItems_timestamp {dt : DateTime} (hv : dt.isValid = true) (hc : dt.time.OnClock)
    (items : List TimeItem) (p : TimeFields) {rest : List Char}
    (hstop : ∀ c ∈ rest.head?, c.isDigit = false ∧ c ≠ '.') :
    scanItems (TimePattern.timestamp ++ items) p (dt.render.toList ++ rest) =
      scanItems items ((p.withDate dt.date).withClock dt.time) rest := by
  simp only [DateTime.isValid, Bool.and_eq_true] at hv
  have hh := (TimeOfDay.bounds_of_isValid hv.2).1
  simp only [TimePattern.timestamp, DateTime.render, String.toList_append, List.append_assoc,
    toList_space, List.cons_append, List.nil_append]
  rw [scanItems_date hv.1 _ _ (by simp), scanItems_blank_space _ _
    (render_head_not_white _ (by omega) _), scanItems_clock hv.2 hc _ _ hstop]

/-- The fields of a timestamp name it back, when no nanoseconds were read before. -/
theorem toDateTime?_of_fields {dt : DateTime} (hv : dt.isValid = true) {p : TimeFields}
    (hp : p.nanos = none) : ((p.withDate dt.date).withClock dt.time).toDateTime? = some dt := by
  simp only [DateTime.isValid, Bool.and_eq_true] at hv
  have hdate : ((p.withDate dt.date).withClock dt.time).toDate? = some dt.date :=
    toDate?_withDate hv.1 p
  simp [TimeFields.toDateTime?, hdate, toTime?_of_clock hv.2 (p := p.withDate dt.date) hp]

/-- A timestamp of whole microseconds, with no leap second, reads back from its text. -/
theorem readTimestamp?_render {dt : DateTime} (hv : dt.isValid = true) (hc : dt.time.OnClock) :
    readTimestamp? dt.render = some dt := by
  have hscan := scanItems_timestamp hv hc [] {}
    (show ∀ c ∈ ([] : List Char).head?, c.isDigit = false ∧ c ≠ '.' by simp)
  simp only [List.append_nil] at hscan
  simp only [readTimestamp?, readFields, hscan, scanItems, List.isEmpty_nil, ↓reduceIte,
    Option.bind_eq_bind, Option.bind_some]
  exact toDateTime?_of_fields hv rfl

/-- The offset read is no part of the timestamp. -/
theorem toDateTime?_withOffset (p : TimeFields) (o : Int) :
    ({ p with offset := some o } : TimeFields).toDateTime? = p.toDateTime? := rfl

theorem offsetText_stop (o : Int) (rest : List Char) :
    ∀ c ∈ ((offsetText o).toList ++ rest).head?, c.isDigit = false ∧ c ≠ '.' := by
  unfold offsetText
  split <;> simp [show "-".toList = ['-'] from rfl, show "+".toList = ['+'] from rfl]

/-- A timestamp with an offset reads back from its text: of whole microseconds, with no leap
    second, an offset within a day of whole minutes, and a time in UTC that is in range. -/
theorem readZoned?_render {dt : DateTime} {o : Int} (hv : dt.isValid = true)
    (hc : dt.time.OnClock) (ho : isValidOffset o = true) (hm : o % 60 = 0)
    (hutc : (dt.toUtc o).date.isValid = true) :
    readZoned? (dt.render ++ offsetText o) = some (dt, o) := by
  have hscan := scanItems_timestamp hv hc [.offset false] {} (offsetText_stop o [])
  simp only [List.append_nil] at hscan
  have hoff := scanOffset_offsetText ho hm []
  simp only [List.append_nil] at hoff
  have hfields := toDateTime?_of_fields hv (p := {}) rfl
  simp only [readZoned?, readFields, TimePattern.zoned, String.toList_append, hscan, scanItems,
    hoff, Option.bind_eq_bind, Option.bind_some, List.isEmpty_nil,
    ↓reduceIte, TimeFields.toZoned?]
  rw [toDateTime?_withOffset, hfields]
  simp [ho, hutc]

end PgMigrate