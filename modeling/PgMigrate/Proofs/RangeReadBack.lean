import PgMigrate.Literal.Sql
import PgMigrate.Proofs.TextReadBack
/-
  Range literals read back.

  A range is written as the quoted text `[lower,upper)`, cast to its type: each end is the
  scalar text of its value, quoted in double quotes (with `\` and `"` escaped) when the
  reader would otherwise misread it, or nothing for a missing end; the whole text is quoted
  in single quotes (`'` written twice).  Reading undoes the layers one by one: the single
  quotes, the trimming, the brackets, the split at the comma outside double quotes, and the
  scalar text of each end.

  The ends read back are the values of the subtype's own kind that the writer puts down in
  full (`BoundValue`): integers of the subtype's width, any text, dates that exist,
  timestamps of whole microseconds and no leap second, in UTC or at an offset of whole
  minutes.

  Main statements:
  * `readBound_scalarText`: such a value reads back from its scalar text;
  * `splitSides_sideText`: an end's text is split off whole, and leaves the side it was
    written from;
  * `parseRange_rangeText`: a range's text reads back to it;
  * `range_literal_round_trip`: a range's SQL literal reads back to it.
-/
namespace PgMigrate

/-! ## Values at the ends -/

/-- The value at an end of a range, if it has one. -/
def Bound.value? {α : Type} : Bound α → Option α
  | .unbounded => none
  | .included a => some a
  | .excluded a => some a

/-- The values at the ends of a range. -/
def Range.values {α : Type} : Range α → List α
  | .empty => []
  | .bounded lower upper => lower.value?.toList ++ upper.value?.toList

theorem Range.mem_values_lower {α : Type} {lower upper : Bound α} {a : α}
    (h : a ∈ lower.value?) : a ∈ (Range.bounded lower upper).values := by
  simp only [Range.values, List.mem_append, Option.mem_toList]
  exact .inl h

theorem Range.mem_values_upper {α : Type} {lower upper : Bound α} {a : α}
    (h : a ∈ upper.value?) : a ∈ (Range.bounded lower upper).values := by
  simp only [Range.values, List.mem_append, Option.mem_toList]
  exact .inr h

namespace Literal

/-- A value of a range of subtype `S` whose scalar text reads back: of the subtype's own kind,
    within what its type holds (an integer of the width, a date that exists, a valid time and
    offset, a time in UTC in range), and, for a time, of whole microseconds with no leap
    second and an offset of whole minutes. -/
inductive BoundValue : SqlType → Value → Prop
  | smallInt {n : Int} (h : i16Min ≤ n ∧ n ≤ i16Max) : BoundValue .smallInt (.smallInt n)
  | integer {n : Int} (h : i32Min ≤ n ∧ n ≤ i32Max) : BoundValue .integer (.integer n)
  | bigInt {n : Int} (h : i64Min ≤ n ∧ n ≤ i64Max) : BoundValue .bigInt (.bigInt n)
  | text (s : String) : BoundValue .text (.text s)
  | date {d : Date} (h : d.isValid = true) : BoundValue .date (.date d)
  | timestamp {dt : DateTime} (h : dt.isValid = true) (hc : dt.time.OnClock) :
      BoundValue .timestamp (.timestamp dt)
  | timestampUtc {dt : DateTime} (h : dt.isValid = true) (hc : dt.time.OnClock) :
      BoundValue .timestamptz (.timestampUtc dt)
  | timestampTz {dt : DateTime} {o : Int} (h : dt.isValid = true) (hc : dt.time.OnClock)
      (ho : isValidOffset o = true) (hutc : (dt.toUtc o).date.isValid = true) (hm : o % 60 = 0) :
      BoundValue .timestamptz (.timestampTz dt o)

/-- The text at the end of a quoted timestamp is no ` UTC`. -/
theorem not_isSuffixOf_utc {cs : List Char} {d : Char} (hd : d ≠ 'C') :
    " UTC".toList.isSuffixOf (cs ++ [d]) = false := by
  rw [Bool.eq_false_iff]
  intro h
  have hsuffix := List.isSuffixOf_iff_suffix.1 h
  obtain ⟨pre, hpre⟩ := hsuffix
  have hlast := congrArg List.getLast? hpre
  simp at hlast
  exact hd hlast.symm

theorem offsetText_last (o : Int) : ∃ cs d, (offsetText o).toList = cs ++ [d] ∧ d ≠ 'C' := by
  have hM : o.natAbs % 3600 / 60 < 100 := by omega
  refine ⟨(if o < 0 then "-" else "+").toList ++ (pad2 (o.natAbs / 3600)).toList ++ [':'] ++
    [Nat.digitChar (o.natAbs % 3600 / 60 / 10)], Nat.digitChar (o.natAbs % 3600 / 60 % 10), ?_,
    Nat.digitChar_ne _ (by decide)⟩
  simp [offsetText, toList_pad2 hM]

/-- A value that reads back does so from its scalar text, whatever the text is named in
    errors. -/
theorem readBound_scalarText {S : SqlType} {v : Value} (h : BoundValue S v) :
    ∃ t, scalarText v S = .ok t ∧ ∀ whole, readBound t S whole = .ok v := by
  cases h
  case smallInt n hn =>
    refine ⟨toString n, rfl, fun _ => ?_⟩
    simp only [readBound, readInteger?_toString hn, Option.map_some]
  case integer n hn =>
    refine ⟨toString n, rfl, fun _ => ?_⟩
    simp only [readBound, readInteger?_toString hn, Option.map_some]
  case bigInt n hn =>
    refine ⟨toString n, rfl, fun _ => ?_⟩
    simp only [readBound, readInteger?_toString hn, Option.map_some]
  case text s => exact ⟨s, rfl, fun _ => rfl⟩
  case date d hd => exact ⟨d.render, rfl, fun _ => by simp [readBound, readDate?_render hd]⟩
  case timestamp dt hv hc =>
    exact ⟨dt.render, rfl, fun _ => by simp [readBound, readTimestamp?_render hv hc]⟩
  case timestampUtc dt hv hc =>
    refine ⟨dt.render ++ " UTC", rfl, fun _ => ?_⟩
    -- the ` UTC` is taken off, and what is before it read as a timestamp
    have hsuffix : " UTC".toList.isSuffixOf (dt.render ++ " UTC").toList = true := by
      simp [String.toList_append, List.isSuffixOf_iff_suffix]
    have htake : (dt.render ++ " UTC").toList.take ((dt.render ++ " UTC").toList.length -
        " UTC".toList.length) = dt.render.toList := by
      simp [String.toList_append]
    simp only [readBound, hsuffix, ↓reduceIte, htake, String.ofList_toList,
      readTimestamp?_render hv hc, Option.map_some]
  case timestampTz dt o hv hc ho hutc hm =>
    refine ⟨dt.render ++ offsetText o, rfl, fun _ => ?_⟩
    obtain ⟨cs, d, hcs, hd⟩ := offsetText_last o
    have hsuffix : " UTC".toList.isSuffixOf (dt.render ++ offsetText o).toList = false := by
      rw [String.toList_append, hcs, ← List.append_assoc]
      exact not_isSuffixOf_utc hd
    simp only [readBound, hsuffix, Bool.false_eq_true, ↓reduceIte,
      readZoned?_render hv hc ho hm hutc, Option.map_some]

/-! ## Splitting at the comma -/

section Split

variable (whole : String)

/-- A character that is neither a quote, a backslash nor a comma joins the current side, inside
    quotes or out. -/
theorem splitSides_plain {c : Char} (hq : c ≠ '"') (hb : c ≠ '\\') (hc : c ≠ ',')
    (rest : List Char) (st : SplitState) :
    splitSides whole (c :: rest) st =
      splitSides whole rest { st with current := c :: st.current } :=
  splitSides.eq_7 whole st c rest (fun _ h _ => hq h) hq (fun h _ => hb h) (fun _ _ h _ => hb h) hc

theorem splitSides_escape (c : Char) (rest : List Char) (st : SplitState) :
    splitSides whole ('\\' :: c :: rest) st =
      splitSides whole rest { st with current := c :: st.current } :=
  splitSides.eq_5 whole st c rest

theorem splitSides_quoted_comma (rest : List Char) {st : SplitState} (hq : st.inQuotes = true) :
    splitSides whole (',' :: rest) st =
      splitSides whole rest { st with current := ',' :: st.current } := by
  rw [splitSides.eq_6, if_pos hq]

/-- An opening quote: what follows is quoted, and the side counts as quoted. -/
theorem splitSides_open (rest : List Char) {st : SplitState} (hq : st.inQuotes = false) :
    splitSides whole ('"' :: rest) st =
      splitSides whole rest { st with quotedSide := true, inQuotes := true } := by
  cases rest with
  | nil => rw [splitSides.eq_3 _ _ _ (by simp), if_neg (by simp [hq])]
  | cons c rest =>
    by_cases hc : c = '"'
    · subst hc
      rw [splitSides.eq_2, if_neg (by simp [hq])]
    · rw [splitSides.eq_3 _ _ _ (by simp [hc]), if_neg (by simp [hq])]

/-- A closing quote, when no quote follows it. -/
theorem splitSides_close {rest : List Char} (hrest : ∀ c ∈ rest.head?, c ≠ '"')
    {st : SplitState} (hq : st.inQuotes = true) :
    splitSides whole ('"' :: rest) st = splitSides whole rest { st with inQuotes := false } := by
  rw [splitSides.eq_3 _ _ _ (fun r h => hrest '"' (by simp [h]) rfl), if_pos hq]

theorem toList_charToString (c : Char) : c.toString.toList = [c] := by
  rw [show c.toString = String.singleton c from rfl, String.toList_singleton]

/-- The characters of a text written inside double quotes: `\` and `"` behind a backslash. -/
def escapedChars (t : List Char) : List Char :=
  t.flatMap fun c => (if c == '\\' then "\\\\" else if c == '"' then "\\\"" else c.toString).toList

theorem toList_quoteBound (t : String) :
    (quoteBound t).toList = '"' :: (escapedChars t.toList ++ ['"']) := by
  simp [quoteBound, escapedChars, String.toList_join, List.flatMap_map]

/-- Inside quotes, an escaped text is read back into the current side. -/
theorem splitSides_escaped (t rest : List Char) {st : SplitState} (hq : st.inQuotes = true) :
    splitSides whole (escapedChars t ++ rest) st =
      splitSides whole rest { st with current := t.reverse ++ st.current } := by
  induction t generalizing st with
  | nil => rfl
  | cons c t ih =>
    have hstep : splitSides whole
        ((if c == '\\' then "\\\\" else if c == '"' then "\\\"" else c.toString).toList ++
          (escapedChars t ++ rest)) st =
        splitSides whole (escapedChars t ++ rest) { st with current := c :: st.current } := by
      by_cases hb : c = '\\'
      · subst hb
        exact splitSides_escape whole _ _ st
      · by_cases hd : c = '"'
        · subst hd
          exact splitSides_escape whole _ _ st
        · simp only [beq_iff_eq, hb, hd, ↓reduceIte]
          rw [toList_charToString, List.singleton_append]
          by_cases hc : c = ','
          · subst hc
            exact splitSides_quoted_comma whole _ hq
          · exact splitSides_plain whole hd hb hc _ st
    rw [escapedChars, List.flatMap_cons, ← escapedChars, List.append_assoc, hstep,
      ih (show ({ st with current := c :: st.current } : SplitState).inQuotes = true from hq)]
    simp

/-- Outside quotes, a text with no quote, backslash or comma is read into the current side. -/
theorem splitSides_bare (t rest : List Char)
    (ht : ∀ c ∈ t, c ≠ '"' ∧ c ≠ '\\' ∧ c ≠ ',') (st : SplitState) :
    splitSides whole (t ++ rest) st =
      splitSides whole rest { st with current := t.reverse ++ st.current } := by
  induction t generalizing st with
  | nil => rfl
  | cons c t ih =>
    obtain ⟨hq, hb, hc⟩ := ht c (by simp)
    rw [List.cons_append, splitSides_plain whole hq hb hc,
      ih (fun x hx => ht x (List.mem_cons_of_mem _ hx))]
    simp

/-- What a text needs no quotes for: no quote, backslash or comma (nor anything else the
    reader would misread), and at least one character. -/
theorem bare_of_needsQuoting {t : String} (h : needsQuoting t = false) :
    t.toList ≠ [] ∧ ∀ c ∈ t.toList, c ≠ '"' ∧ c ≠ '\\' ∧ c ≠ ',' := by
  simp only [needsQuoting, Bool.or_eq_false_iff, List.any_eq_false] at h
  obtain ⟨⟨hempty, -⟩, hchars⟩ := h
  refine ⟨by simpa using hempty, fun c hc => ?_⟩
  have := hchars c hc
  simp only [Bool.or_eq_true, beq_iff_eq, not_or] at this
  exact ⟨this.1.1.1.1.1.1.1, this.1.1.1.1.1.1.2, this.1.2⟩

/-- An end's text inside a range's text: nothing for a missing end, else the scalar text, in
    double quotes when the reader would misread it bare. -/
def sideText : Option String → String
  | none => ""
  | some t => if needsQuoting t then quoteBound t else t

/-- Where splitting stands once an end's text is read: outside quotes, the end read as the
    current side. -/
def sideState (sides : List (Option String)) : Option String → SplitState
  | none => { sides := sides }
  | some t => { sides := sides, current := t.toList.reverse, quotedSide := needsQuoting t }

@[simp] theorem sideState_sides (sides : List (Option String)) (side : Option String) :
    (sideState sides side).sides = sides := by
  cases side <;> rfl

@[simp] theorem sideState_inQuotes (sides : List (Option String)) (side : Option String) :
    (sideState sides side).inQuotes = false := by
  cases side <;> rfl

/-- The side read is the end written. -/
@[simp] theorem sideState_side (sides : List (Option String)) (side : Option String) :
    (sideState sides side).side = side := by
  cases side with
  | none => rfl
  | some t =>
    cases hq : needsQuoting t
    case true => simp [sideState, SplitState.side, hq]
    case false =>
      have hne := (bare_of_needsQuoting hq).1
      simp [sideState, SplitState.side, hq, hne]

/-- An end's text is split off whole, and leaves the end as the current side, when no quote
    follows it. -/
theorem splitSides_sideText (side : Option String) (sides : List (Option String))
    {rest : List Char} (hrest : ∀ c ∈ rest.head?, c ≠ '"') :
    splitSides whole ((sideText side).toList ++ rest) { sides := sides } =
      splitSides whole rest (sideState sides side) := by
  cases side with
  | none => rfl
  | some t =>
    simp only [sideText]
    split
    case isTrue hq =>
      -- in quotes: the escaped text, then the closing quote
      rw [toList_quoteBound, List.cons_append, splitSides_open whole _ rfl, List.append_assoc,
        splitSides_escaped whole _ _ rfl, List.singleton_append, splitSides_close whole hrest rfl]
      simp [sideState, hq]
    case isFalse hq =>
      rw [splitSides_bare whole _ _ (bare_of_needsQuoting (by simpa using hq)).2]
      simp [sideState, hq]

/-- The inside of a range, two ends' texts about a comma, splits into the two ends. -/
theorem splitBounds_sideText (lower upper : Option String) :
    splitBounds ((sideText lower).toList ++ ',' :: (sideText upper).toList) whole =
      .ok (lower, upper) := by
  have hsplit : splitSides whole ((sideText lower).toList ++ ',' :: (sideText upper).toList) {} =
      .ok (sideState [lower] upper) := by
    rw [show ({} : SplitState) = { sides := [] } from rfl,
      splitSides_sideText whole lower [] (by simp), splitSides.eq_6]
    simp only [sideState_inQuotes, Bool.false_eq_true, ↓reduceIte, sideState_sides,
      sideState_side, List.nil_append, List.length_singleton, gt_iff_lt, Nat.lt_irrefl]
    rw [← List.append_nil (sideText upper).toList,
      splitSides_sideText whole upper [lower] (by simp), splitSides.eq_1]
  simp only [splitBounds, hsplit, bind, Except.bind, sideState_inQuotes, Bool.false_eq_true,
    ↓reduceIte, sideState_sides, sideState_side, List.cons_append, List.nil_append]
  rfl

end Split

/-! ## Range text -/

/-- An end whose value reads back is written as a bracket, one of its two, and a side that
    reads back to the end. -/
theorem boundPart_readSide {included excluded : Char} (hie : included ≠ excluded)
    (expected : String) {b : Bound Value} {S : SqlType} (hb : ∀ v ∈ b.value?, BoundValue S v) :
    ∃ bracket side, (bracket = included ∨ bracket = excluded) ∧
      boundPart included excluded b S = .ok (bracket, sideText side) ∧
      ∀ whole, readSide included excluded expected bracket side S whole = .ok b := by
  have hne : (excluded == included) = false := by simpa using hie.symm
  cases b with
  | unbounded =>
    exact ⟨excluded, none, .inr rfl, rfl, fun _ => by simp [readSide, pure, Except.pure]⟩
  | included v =>
    obtain ⟨t, ht, hread⟩ := readBound_scalarText (hb v rfl)
    refine ⟨included, some t, .inl rfl, ?_, fun whole => ?_⟩
    · simp [boundPart, boundText, ht, sideText, bind, Except.bind, pure, Except.pure]
    · simp [readSide, hread whole, bind, Except.bind, pure, Except.pure]
  | excluded v =>
    obtain ⟨t, ht, hread⟩ := readBound_scalarText (hb v rfl)
    refine ⟨excluded, some t, .inr rfl, ?_, fun whole => ?_⟩
    · simp [boundPart, boundText, ht, sideText, bind, Except.bind, pure, Except.pure]
    · simp [readSide, hne, hread whole, bind, Except.bind, pure, Except.pure]

/-- Nothing is trimmed from a text that starts and ends with something else than white space. -/
theorem trimChars_of_ends {x y : Char} (hx : Unicode.isWhiteSpace x = false)
    (hy : Unicode.isWhiteSpace y = false) (mid : List Char) :
    trimChars (x :: (mid ++ [y])) = x :: (mid ++ [y]) := by
  unfold trimChars trimEndChars
  rw [trimStartChars_cons hx]
  simp [trimStartChars, hy]

theorem parseRange_empty (S : SqlType) : parseRange "empty" S = .ok .empty := by
  unfold parseRange
  rw [if_pos (by decide)]
  rfl

/-- A range whose ends' values read back is written as a text that reads back to it. -/
theorem parseRange_rangeText {r : Range Value} {S : SqlType}
    (hr : ∀ v ∈ r.values, BoundValue S v) :
    ∃ text, rangeText r S = .ok text ∧ parseRange text S = .ok r := by
  cases r with
  | empty => exact ⟨"empty", rfl, parseRange_empty S⟩
  | bounded lower upper =>
    obtain ⟨opening, lo, hopen, hlo, hreadLo⟩ := @boundPart_readSide '[' '(' (by decide)
      "expected '[' or '('" lower S (fun v hv => hr v (Range.mem_values_lower hv))
    obtain ⟨closing, hi, hclose, hhi, hreadHi⟩ := @boundPart_readSide ']' ')' (by decide)
      "expected ']' or ')'" upper S (fun v hv => hr v (Range.mem_values_upper hv))
    refine ⟨opening.toString ++ sideText lo ++ "," ++ sideText hi ++ closing.toString, ?_, ?_⟩
    · simp [rangeText, hlo, hhi, bind, Except.bind, pure, Except.pure]
    · -- the brackets stand at the ends, and are no white space
      generalize hmid : (sideText lo).toList ++ ',' :: (sideText hi).toList = mid
      have htext : (opening.toString ++ sideText lo ++ "," ++ sideText hi ++
          closing.toString).toList = opening :: (mid ++ [closing]) := by
        simp [← hmid, String.toList_append]
      have hwo : Unicode.isWhiteSpace opening = false := by
        rcases hopen with rfl | rfl <;> decide
      have hwc : Unicode.isWhiteSpace closing = false := by
        rcases hclose with rfl | rfl <;> decide
      have hnotEmpty : (List.map asciiLower (opening :: (mid ++ [closing])) ==
          "empty".toList) = false := by
        rcases hopen with rfl | rfl <;> rfl
      unfold parseRange
      simp only [htext, trimChars_of_ends hwo hwc, hnotEmpty, Bool.false_eq_true, ↓reduceIte]
      split
      case h_1 heq => cases heq
      case h_2 heq =>
        simp only [List.cons.injEq, List.append_eq_nil_iff, List.cons_ne_nil, and_false] at heq
      case h_3 first rest _ _ heq =>
        simp only [List.cons.injEq] at heq
        obtain ⟨rfl, rfl⟩ := heq
        simp only [List.getLast?_concat, Option.getD_some, List.dropLast_concat, ← hmid,
          splitBounds_sideText, hreadLo, hreadHi, bind, Except.bind, pure, Except.pure]

/-! ## The quoted literal -/

/-- Trimming the end of a text does not reach past a character that is no white space. -/
theorem trimEndChars_append {xs : List Char} (ys : List Char)
    (h : ∀ c ∈ xs.getLast?, Unicode.isWhiteSpace c = false) :
    trimEndChars (xs ++ ys) = xs ++ trimEndChars ys := by
  unfold trimEndChars trimStartChars
  rw [List.reverse_append, List.dropWhile_append]
  split
  case isTrue hys =>
    -- all of `ys` is white space: trimming stops at the last character of `xs`
    rw [List.isEmpty_iff.1 hys, List.reverse_nil, List.append_nil]
    cases hx : xs.reverse with
    | nil => simp_all
    | cons c cs =>
      have hc : Unicode.isWhiteSpace c = false := h c (by
        rw [← List.head?_reverse, hx]
        rfl)
      rw [List.dropWhile_cons_of_neg (by simp [hc]), ← hx, List.reverse_reverse]
  case isFalse hys =>
    rw [List.reverse_append, List.reverse_reverse]

/-- The characters of a text between single quotes: each quote written twice. -/
def doubledChars (s : List Char) : List Char :=
  s.flatMap fun c => if c == '\'' then ['\'', '\''] else [c]

/-- The body of a text in single quotes is read back up to the closing quote, when no quote
    follows that. -/
theorem unquoteBody_doubled (s acc : List Char) {rest : List Char}
    (hrest : ∀ c ∈ rest.head?, c ≠ '\'') :
    unquoteBody (doubledChars s ++ '\'' :: rest) acc =
      some (String.ofList (acc.reverse ++ s), rest) := by
  induction s generalizing acc with
  | nil =>
    rw [doubledChars, List.flatMap_nil, List.nil_append,
      unquoteBody.eq_3 _ _ (fun r h => hrest '\'' (by simp [h]) rfl), List.append_nil]
  | cons c s ih =>
    rw [doubledChars, List.flatMap_cons, ← doubledChars, List.append_assoc]
    by_cases hc : c = '\''
    · subst hc
      rw [if_pos (beq_self_eq_true _), List.cons_append, List.cons_append, List.nil_append,
        unquoteBody.eq_2, ih]
      simp
    · rw [if_neg (by simpa using hc), List.singleton_append,
        unquoteBody.eq_4 _ _ _ (fun _ h _ => hc h) hc, ih]
      simp

theorem toList_sqlQuote (s : String) :
    (sqlQuote s).toList = '\'' :: (doubledChars s.toList ++ ['\'']) := by
  have hchar : ∀ c : Char, (if c == '\'' then "''" else c.toString).toList =
      if c == '\'' then ['\'', '\''] else [c] := fun c => by
    split
    · rfl
    · exact toList_charToString c
  simp only [sqlQuote, doubledChars, String.toList_append, String.toList_join, List.flatMap_map,
    hchar, show "'".toList = ['\''] from rfl, List.cons_append, List.nil_append]

/-- A quoted literal cast to a type reads as the text between its quotes. -/
theorem parseRangeLiteral_sqlQuote (text ty : String) (S : SqlType) :
    parseRangeLiteral (sqlQuote text ++ "::" ++ ty) S = parseRange text S := by
  have hcolons : ∀ c ∈ [':', ':'].getLast?, Unicode.isWhiteSpace c = false := fun c hc => by
    simp only [List.getLast?_cons_cons, List.getLast?_singleton, Option.mem_def,
      Option.some.injEq] at hc
    subst hc
    decide
  -- trimming takes white space off the type's name only
  have htrim : trimChars (sqlQuote text ++ "::" ++ ty).toList =
      '\'' :: (doubledChars text.toList ++ '\'' :: ':' :: ':' :: trimEndChars ty.toList) := by
    have hlast : ∀ c ∈ ('\'' :: (doubledChars text.toList ++ ['\'', ':', ':'])).getLast?,
        Unicode.isWhiteSpace c = false := by
      simp [List.getLast?_cons, List.getLast?_append]
      decide
    have h := trimEndChars_append ty.toList hlast
    simp only [List.cons_append, List.append_assoc, List.nil_append] at h
    simp only [trimChars, String.toList_append, toList_sqlQuote, List.cons_append,
      List.append_assoc, show "::".toList = [':', ':'] from rfl, List.nil_append]
    rw [trimStartChars_cons (by decide), h]
  have htail : trimChars (':' :: ':' :: trimEndChars ty.toList) =
      ':' :: ':' :: trimEndChars (trimEndChars ty.toList) := by
    unfold trimChars
    rw [trimStartChars_cons (by decide)]
    simpa using @trimEndChars_append [':', ':'] (trimEndChars ty.toList) hcolons
  unfold parseRangeLiteral
  rw [htrim]
  have hafter : ∀ c ∈ (':' :: ':' :: trimEndChars ty.toList).head?, c ≠ '\'' := by simp
  simp only [unquoteBody_doubled text.toList [] hafter, List.reverse_nil, List.nil_append,
    String.ofList_toList, htail]
  rw [if_pos (by simp)]

/-- A range's SQL literal is its text, quoted, cast to the range type. -/
theorem sqlLiteral_range {r : Range Value} {S : SqlType} {text : String}
    (htext : rangeText r S = .ok text) (schema : Option String) (name : String) :
    sqlLiteral (.range r) (.range schema name S) =
      .ok (sqlQuote text ++ "::" ++ (SqlType.range schema name S).storeType) := by
  rw [sqlLiteral, sqlIn.eq_11, htext]
  rfl

/-- A range reads back from its SQL literal, when every value at its ends reads back from its
    scalar text: an integer of the subtype's width, any text, a date that exists, a timestamp
    of whole microseconds and no leap second, in UTC or at an offset of whole minutes. -/
theorem range_literal_round_trip (schema : Option String) (name : String) (S : SqlType)
    (r : Range Value) (hr : ∀ v ∈ r.values, BoundValue S v) :
    ∃ literal, sqlLiteral (.range r) (.range schema name S) = .ok literal ∧
      parseRangeLiteral literal S = .ok r := by
  obtain ⟨text, htext, hparse⟩ := parseRange_rangeText hr
  refine ⟨_, sqlLiteral_range htext schema name, ?_⟩
  rw [parseRangeLiteral_sqlQuote]
  exact hparse

/-- A range of timestamps with time zone: from a leap day just before midnight in UTC to the
    last day of the year before year 0, at an offset west of UTC. -/
def leapDayRange : Range Value :=
  .bounded (.included (.timestampUtc ⟨⟨2024, 2, 29⟩, ⟨23, 59, 59, 999999000⟩⟩))
    (.excluded (.timestampTz ⟨⟨-1, 12, 31⟩, ⟨1, 2, 3, 120000000⟩⟩ (-19800)))

theorem leapDayRange_reads_back :
    (∀ v ∈ leapDayRange.values, BoundValue .timestamptz v) ∧
      ∃ literal, sqlLiteral (.range leapDayRange) (.range (some "s p") "my r " .timestamptz) =
          .ok literal ∧ parseRangeLiteral literal .timestamptz = .ok leapDayRange := by
  have hr : ∀ v ∈ leapDayRange.values, BoundValue .timestamptz v := by
    intro v hv
    simp only [leapDayRange, Range.values, Bound.value?, Option.toList_some, List.cons_append,
      List.nil_append, List.mem_cons, List.not_mem_nil, or_false] at hv
    rcases hv with rfl | rfl
    · exact .timestampUtc (by decide) (by decide)
    · exact .timestampTz (by decide) (by decide) (by decide) (by decide) (by decide)
  exact ⟨hr, range_literal_round_trip (some "s p") "my r " .timestamptz leapDayRange hr⟩

end Literal

end PgMigrate
