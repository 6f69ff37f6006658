import Mathlib
import PgMigrate.Scaffold.Call
import PgMigrate.Proofs.NeutralText
/-
  String literals of builder calls, read back by the rules of the generated code.

  The generated code reads a string literal from its opening `"` to the next `"` that no
  backslash escapes.  In between every character stands for itself, except that a bare
  carriage return is refused and a backslash starts an escape: `\" \' \\ \n \r \t \0`; `\x`
  and two hex digits up to `7f`; `\u{…}` with one to six hex digits, `_` allowed after the
  first, naming a character; or a line break, dropped with the blanks that follow it.
  `readLiteral` reads by these rules and gives the string with the text after the literal.

  A builder call writes a string with `"`, `\`, line feed, carriage return and tab escaped by
  name, the other control characters as `\u{hex}`, and the rest as themselves.  Each
  character's text reads back as that character (`readBody_callEscape`), so a written
  literal reads back as its string, up to its closing quote and no further; and no control
  character is left raw in it.

  Main statements:
  * `readBraced_unicodeEscape`: `\u{hex}` names the character whose code it writes;
  * `readLiteral_callQuote`: a written literal, followed by any text, reads back as its
    string and leaves that text;
  * `isControl_callQuote`: a written literal holds no raw control character;
  * `readStringArgument_str`, `readStringArgument_optStr`, `readStringArgument_strList`: a
    string, optional string or string list argument of a call reads back as itself;
  * `callQuote_denotes_its_string`: all of these together.
-/
namespace PgMigrate

namespace CallLiteral

/-! ## Reading a string literal -/

/-- The value of a hex digit, in either case. -/
def hexDigitValue? (c : Char) : Option Nat :=
  if c.isDigit then some (c.toNat - '0'.toNat)
  else if 'a' ≤ c ∧ c ≤ 'f' then some (c.toNat - 'a'.toNat + 10)
  else if 'A' ≤ c ∧ c ≤ 'F' then some (c.toNat - 'A'.toNat + 10)
  else none

/-- The number that hex digits stand for, the most significant first; `none` unless every
    character is a hex digit. -/
def hexNumber? (ds : List Char) : Option Nat :=
  ds.foldlM (fun n c => (hexDigitValue? c).map (16 * n + ·)) 0

/-- Reads a `\u{…}` escape after its `{`: up to the first `}`, one to six hex digits with
    `_` allowed after the first, naming a character.  Gives the character and the text
    after the `}`. -/
def readBraced (text : List Char) : Option (Char × List Char) :=
  let inner := text.takeWhile (· != '}')
  match text.dropWhile (· != '}') with
  | '}' :: rest =>
    let digits := inner.filter (· != '_')
    if inner.head? = some '_' ∨ digits = [] ∨ 6 < digits.length then none
    else
      match hexNumber? digits with
      | some n => if n.isValidChar then some (Char.ofNat n, rest) else none
      | none => none
  | _ => none

/-- Reads an escape after its backslash: the characters it stands for (none for an escaped
    line break) and the text after it. -/
def readEscape : List Char → Option (List Char × List Char)
  | '"' :: rest => some (['"'], rest)
  | '\x27' :: rest => some (['\x27'], rest)
  | '\\' :: rest => some (['\\'], rest)
  | 'n' :: rest => some (['\n'], rest)
  | 'r' :: rest => some (['\r'], rest)
  | 't' :: rest => some (['\t'], rest)
  | '0' :: rest => some (['\x00'], rest)
  | 'x' :: hi :: lo :: rest =>
    match hexNumber? [hi, lo] with
    | some n => if n ≤ 0x7F then some ([Char.ofNat n], rest) else none
    | none => none
  | 'u' :: '{' :: rest => (readBraced rest).map fun r => ([r.1], r.2)
  | '\n' :: rest =>
    some ([], rest.dropWhile fun c => c == ' ' || c == '\t' || c == '\n' || c == '\r')
  | _ => none

/-- A `\u{…}` escape ends at the first `}`. -/
theorem dropWhile_of_readBraced {text after : List Char} {c : Char}
    (h : readBraced text = some (c, after)) : text.dropWhile (· != '}') = '}' :: after := by
  unfold readBraced at h
  dsimp only at h
  split at h
  · rename_i rest hdrop
    split at h
    · cases h
    · split at h
      · split at h
        · simp only [Option.some.injEq, Prod.mk.injEq] at h
          rw [hdrop, h.2]
        · cases h
      · cases h
  · cases h

theorem readBraced_length {text after : List Char} {c : Char}
    (h : readBraced text = some (c, after)) : after.length < text.length := by
  have hlen := List.length_dropWhile_le (· != '}') text
  rw [dropWhile_of_readBraced h, List.length_cons] at hlen
  omega

/-- An escape is read from the front of the text. -/
theorem readEscape_length {text after cs : List Char} (h : readEscape text = some (cs, after)) :
    after.length ≤ text.length := by
  unfold readEscape at h
  split at h
  -- a named escape takes one character
  all_goals try (simp only [Option.some.injEq, Prod.mk.injEq] at h; rw [← h.2]; simp; done)
  · -- `\x` with two digits
    split at h
    · split at h
      · simp only [Option.some.injEq, Prod.mk.injEq] at h
        rw [← h.2]
        simp only [List.length_cons]
        omega
      · cases h
    · cases h
  · -- `\u{…}`, up to its `}`
    obtain ⟨⟨c, rest⟩, hr, hcs⟩ := Option.map_eq_some_iff.1 h
    simp only [Prod.mk.injEq] at hcs
    have hlen := readBraced_length hr
    rw [← hcs.2, List.length_cons, List.length_cons]
    omega
  · -- an escaped line break, with the blanks after it
    simp only [Option.some.injEq, Prod.mk.injEq] at h
    rw [← h.2, List.length_cons]
    exact Nat.le_succ_of_le (List.length_dropWhile_le _ _)
  · cases h

/-- Reads the body of a string literal up to its closing quote: the characters it stands for
    and the text after the quote. -/
def readBody (text : List Char) : Option (List Char × List Char) :=
  match text with
  | [] => none
  | c :: rest =>
    if c = '"' then some ([], rest)
    else if c = '\\' then
      match h : readEscape rest with
      | some (cs, after) =>
        have : after.length ≤ rest.length := readEscape_length h
        (readBody after).map fun r => (cs ++ r.1, r.2)
      | none => none
    else if c = '\r' then none
    else (readBody rest).map fun r => (c :: r.1, r.2)
termination_by text.length

/-- Reads a string literal at the front of a text: the string and the text after it. -/
def readLiteral : List Char → Option (String × List Char)
  | '"' :: body => (readBody body).map fun r => (String.ofList r.1, r.2)
  | _ => none

/-- The body of a literal is read from the front of the text, up to its closing quote. -/
theorem readBody_length {text after cs : List Char} (h : readBody text = some (cs, after)) :
    after.length < text.length := by
  fun_induction readBody text generalizing cs after with
  | case1 => cases h
  | case2 rest =>
    simp only [Option.some.injEq, Prod.mk.injEq] at h
    rw [← h.2, List.length_cons]
    omega
  | case3 rest _ _ _ _ _ ih =>
    -- an escape, then the rest of the body
    obtain ⟨⟨_, after'⟩, hr, hcs⟩ := Option.map_eq_some_iff.1 h
    simp only [Prod.mk.injEq] at hcs
    have hlen := ih hr
    rw [← hcs.2, List.length_cons]
    omega
  | case4 => cases h
  | case5 => cases h
  | case6 c rest _ _ _ ih =>
    obtain ⟨⟨_, after'⟩, hr, hcs⟩ := Option.map_eq_some_iff.1 h
    simp only [Prod.mk.injEq] at hcs
    have hlen := ih hr
    rw [← hcs.2, List.length_cons]
    omega

theorem readLiteral_length {text after : List Char} {s : String}
    (h : readLiteral text = some (s, after)) : after.length < text.length := by
  unfold readLiteral at h
  split at h
  · obtain ⟨⟨_, after'⟩, hr, hs⟩ := Option.map_eq_some_iff.1 h
    simp only [Prod.mk.injEq] at hs
    have hlen := readBody_length hr
    rw [← hs.2, List.length_cons]
    omega
  · cases h

/-- Reads the items of a list of string literals after its `&[`: `"…", "…"` up to the `]`. -/
def readItems : List Char → Option (List String × List Char)
  | ']' :: rest => some ([], rest)
  | text =>
    match h : readLiteral text with
    | some (s, ']' :: rest) => some ([s], rest)
    | some (s, ',' :: ' ' :: more) =>
      have : more.length + 2 < text.length := readLiteral_length h
      (readItems more).map fun r => (s :: r.1, r.2)
    | _ => none
termination_by text => text.length

/-- Reads an argument of a builder call that holds text: a literal, `Some(…)` around one,
    `None`, or a list `&[…]` of them. -/
def readStringArgument : List Char → Option (CallArgument × List Char)
  | 'N' :: 'o' :: 'n' :: 'e' :: rest => some (.optStr none, rest)
  | 'S' :: 'o' :: 'm' :: 'e' :: '(' :: text =>
    match readLiteral text with
    | some (s, ')' :: rest) => some (.optStr (some s), rest)
    | _ => none
  | '&' :: '[' :: text => (readItems text).map fun r => (.strList r.1, r.2)
  | text => (readLiteral text).map fun r => (.str r.1, r.2)

/-! ## Hex digits -/

theorem hexDigitValue?_digitChar {d : Nat} (h : d < 16) : hexDigitValue? d.digitChar = some d := by
  interval_cases d <;> rfl

theorem hexNumber?_append_singleton (ds : List Char) (c : Char) :
    hexNumber? (ds ++ [c]) = (hexNumber? ds).bind fun n => (hexDigitValue? c).map (16 * n + ·) := by
  simp [hexNumber?, List.foldlM_append]

/-- The hex digits of a number stand for it. -/
theorem hexNumber?_toDigits (n : Nat) : hexNumber? (Nat.toDigits 16 n) = some n := by
  induction n using Nat.strong_induction_on with
  | _ n ih =>
    by_cases hn : n < 16
    · rw [Nat.toDigits_of_lt_base hn]
      simp [hexNumber?, hexDigitValue?_digitChar hn]
    · -- the last digit is the remainder, the ones before it the quotient
      rw [Nat.toDigits_of_base_le (by decide) (by omega), hexNumber?_append_singleton,
        ih (n / 16) (by omega), Option.bind_some,
        hexDigitValue?_digitChar (Nat.mod_lt n (by decide)), Option.map_some, Nat.div_add_mod]

theorem digitChar_ne_underscore (d : Nat) : d.digitChar ≠ '_' := Nat.digitChar_ne _ (by decide)

/-- The escape `\u{hex}` of a character names that character. -/
theorem readBraced_unicodeEscape (c : Char) (rest : List Char) :
    readBraced ((hexLower c.toNat).toList ++ '}' :: rest) = some (c, rest) := by
  have hdigits : (hexLower c.toNat).toList = Nat.toDigits 16 c.toNat := by
    simp [hexLower]
  rw [hdigits]
  have hbrace : ∀ d ∈ Nat.toDigits 16 c.toNat, (d != '}') = true := by
    intro d hd
    obtain ⟨k, rfl⟩ := mem_toDigits hd
    simp
  have htake : (Nat.toDigits 16 c.toNat ++ '}' :: rest).takeWhile (· != '}') =
      Nat.toDigits 16 c.toNat := by
    rw [List.takeWhile_append_of_pos hbrace]
    simp
  have hdrop : (Nat.toDigits 16 c.toNat ++ '}' :: rest).dropWhile (· != '}') = '}' :: rest := by
    rw [List.dropWhile_append_of_pos hbrace]
    simp
  have hfilter : (Nat.toDigits 16 c.toNat).filter (· != '_') = Nat.toDigits 16 c.toNat := by
    rw [List.filter_eq_self]
    intro d hd
    obtain ⟨k, rfl⟩ := mem_toDigits hd
    simp
  -- at most six digits: every character's code is below `16 ^ 6`
  have hvalid : c.toNat.isValidChar := c.valid
  have hlen : (Nat.toDigits 16 c.toNat).length ≤ 6 := by
    rw [Nat.length_toDigits_le_iff (by decide) (by decide)]
    simp only [Nat.isValidChar] at hvalid
    omega
  have hhead : (Nat.toDigits 16 c.toNat).head? ≠ some '_' := by
    intro h
    obtain ⟨k, hk⟩ := mem_toDigits (List.mem_of_mem_head? h)
    exact digitChar_ne_underscore k hk.symm
  unfold readBraced
  simp only [htake, hdrop, hfilter]
  have hform : ¬((Nat.toDigits 16 c.toNat).head? = some '_' ∨ Nat.toDigits 16 c.toNat = [] ∨
      6 < (Nat.toDigits 16 c.toNat).length) := by
    simp only [not_or]
    exact ⟨hhead, Nat.toDigits_ne_nil, by omega⟩
  rw [if_neg hform, hexNumber?_toDigits]
  dsimp only
  rw [if_pos hvalid, Char.ofNat_toNat]

/-! ## Reading a written literal -/

theorem readBody_quote (rest : List Char) : readBody ('"' :: rest) = some ([], rest) := by
  rw [readBody]
  rfl

theorem readBody_escape {rest cs after : List Char} (h : readEscape rest = some (cs, after)) :
    readBody ('\\' :: rest) = (readBody after).map fun r => (cs ++ r.1, r.2) := by
  rw [readBody, if_neg (by decide), if_pos rfl]
  split
  · rename_i cs' after' h'
    rw [h] at h'
    cases h'
    rfl
  · rename_i h'
    rw [h] at h'
    cases h'

theorem readBody_plain {c : Char} (hquote : c ≠ '"') (hback : c ≠ '\\') (hcr : c ≠ '\r')
    (rest : List Char) : readBody (c :: rest) = (readBody rest).map fun r => (c :: r.1, r.2) := by
  rw [readBody, if_neg hquote, if_neg hback, if_neg hcr]

/-- An escape by name reads back as the character it names. -/
theorem readBody_named {e c : Char} (h : ∀ rest, readEscape (e :: rest) = some ([c], rest))
    (text : List Char) :
    readBody ('\\' :: e :: text) = (readBody text).map fun r => (c :: r.1, r.2) := by
  rw [readBody_escape (h text)]
  rfl

theorem toList_unicodeEscape (c : Char) :
    (unicodeEscape c).toList = '\\' :: 'u' :: '{' :: (Nat.toDigits 16 c.toNat ++ ['}']) := by
  simp [unicodeEscape, hexLower]

/-- Each character's text in a literal reads back as that character, whatever follows it. -/
theorem readBody_callEscape (c : Char) (text : List Char) :
    readBody ((callEscape c).toList ++ text) = (readBody text).map fun r => (c :: r.1, r.2) := by
  unfold callEscape
  split_ifs with hquote hback hlf hcr htab hctl
  · rw [beq_iff_eq] at hquote
    subst hquote
    exact readBody_named (fun _ => rfl) text
  · rw [beq_iff_eq] at hback
    subst hback
    exact readBody_named (fun _ => rfl) text
  · rw [beq_iff_eq] at hlf
    subst hlf
    exact readBody_named (fun _ => rfl) text
  · rw [beq_iff_eq] at hcr
    subst hcr
    exact readBody_named (fun _ => rfl) text
  · rw [beq_iff_eq] at htab
    subst htab
    exact readBody_named (fun _ => rfl) text
  · -- another control character, as `\u{hex}`
    have hesc : (unicodeEscape c).toList ++ text =
        '\\' :: 'u' :: '{' :: ((hexLower c.toNat).toList ++ '}' :: text) := by
      simp [toList_unicodeEscape, hexLower]
    rw [hesc, readBody_escape (show readEscape ('u' :: '{' :: _) = some ([c], text) from by
      rw [readEscape, readBraced_unicodeEscape]
      rfl)]
    rfl
  · -- any other character stands for itself
    have hchar : c.toString.toList = [c] := by simp
    rw [hchar, List.singleton_append]
    exact readBody_plain (by simpa using hquote) (by simpa using hback) (by simpa using hcr) text

theorem toList_callQuote (s : String) :
    (callQuote s).toList = '"' :: ((s.toList.flatMap fun c => (callEscape c).toList) ++ ['"']) := by
  simp [callQuote, String.toList_join, List.flatMap_map]

/-- A written literal opens with its quote. -/
theorem toList_callQuote_opens (s : String) :
    (callQuote s).toList = '"' :: (callQuote s).toList.tail := by
  rw [toList_callQuote]
  rfl

/-- The written characters of a string, then a closing quote, read back as the string. -/
theorem readBody_callEscapes (cs rest : List Char) :
    readBody ((cs.flatMap fun c => (callEscape c).toList) ++ '"' :: rest) = some (cs, rest) := by
  induction cs with
  | nil => exact readBody_quote rest
  | cons c cs ih =>
    rw [List.flatMap_cons, List.append_assoc, readBody_callEscape, ih]
    rfl

/-- A written literal, followed by any text, reads back as its string and leaves that text. -/
theorem readLiteral_callQuote (s : String) (rest : List Char) :
    readLiteral ((callQuote s).toList ++ rest) = some (s, rest) := by
  rw [toList_callQuote, List.cons_append, List.append_assoc, List.singleton_append, readLiteral,
    readBody_callEscapes]
  simp

/-! ## No raw control characters -/

theorem isControl_digitChar (k : Nat) : Unicode.isControl k.digitChar = false := by
  by_cases hk : 16 ≤ k
  · rw [Nat.digitChar_eq_star.2 hk]
    rfl
  · interval_cases k <;> rfl

theorem isControl_named {e : Char} (he : Unicode.isControl e = false) :
    ∀ d ∈ ['\\', e], Unicode.isControl d = false := by
  intro d hd
  simp only [List.mem_cons, List.not_mem_nil, or_false] at hd
  rcases hd with rfl | rfl
  · rfl
  · exact he

theorem isControl_callEscape (c : Char) :
    ∀ d ∈ (callEscape c).toList, Unicode.isControl d = false := by
  unfold callEscape
  split_ifs with hquote hback hlf hcr htab hctl
  · exact isControl_named rfl
  · exact isControl_named rfl
  · exact isControl_named rfl
  · exact isControl_named rfl
  · exact isControl_named rfl
  · -- `\u{hex}`: a backslash, letters, braces and hex digits
    intro d hd
    rw [toList_unicodeEscape] at hd
    simp only [List.mem_cons, List.mem_append, List.not_mem_nil, or_false] at hd
    rcases hd with rfl | rfl | rfl | hd | rfl
    · rfl
    · rfl
    · rfl
    · obtain ⟨k, rfl⟩ := mem_toDigits hd
      exact isControl_digitChar k
    · rfl
  · intro d hd
    have hchar : c.toString.toList = [c] := by simp
    rw [hchar, List.mem_singleton] at hd
    subst hd
    simpa using hctl

/-- A written literal holds no raw control character. -/
theorem isControl_callQuote (s : String) :
    ∀ d ∈ (callQuote s).toList, Unicode.isControl d = false := by
  intro d hd
  rw [toList_callQuote] at hd
  simp only [List.mem_cons, List.mem_append, List.mem_flatMap, List.not_mem_nil, or_false] at hd
  rcases hd with rfl | ⟨c, -, hc⟩ | rfl
  · rfl
  · exact isControl_callEscape c d hc
  · rfl

/-! ## Arguments of a call -/

/-- The last item of a list is a literal followed by `]`. -/
theorem readItems_last {body rest : List Char} {s : String}
    (h : readLiteral ('"' :: body) = some (s, ']' :: rest)) :
    readItems ('"' :: body) = some ([s], rest) := by
  rw [readItems]
  · split
    · rename_i s' rest' h'
      rw [h] at h'
      simp only [Option.some.injEq, Prod.mk.injEq, List.cons.injEq, true_and] at h'
      rw [h'.1, h'.2]
    · rename_i h'
      rw [h] at h'
      simp at h'
    · rename_i h' _
      exact absurd h (h' s rest)
  · intro _ hq
    simp at hq

/-- Any other item is a literal followed by `, ` and the items after it. -/
theorem readItems_next {body more : List Char} {s : String}
    (h : readLiteral ('"' :: body) = some (s, ',' :: ' ' :: more)) :
    readItems ('"' :: body) = (readItems more).map fun r => (s :: r.1, r.2) := by
  rw [readItems]
  · split
    · rename_i h'
      rw [h] at h'
      simp at h'
    · rename_i s' more' h'
      rw [h] at h'
      simp only [Option.some.injEq, Prod.mk.injEq, List.cons.injEq, true_and] at h'
      rw [h'.1, h'.2]
    · rename_i _ h'
      exact absurd h (h' s more)
  · intro _ hq
    simp at hq

/-- Written literals, each but the last followed by `, `, and then `]`, read back as the list. -/
theorem readItems_intercalate (items : List String) (rest : List Char) :
    readItems ((", ".intercalate (items.map callQuote)).toList ++ ']' :: rest) =
      some (items, rest) := by
  induction items with
  | nil =>
    rw [List.map_nil, String.intercalate_nil, String.toList_empty, List.nil_append, readItems]
  | cons s items ih =>
    -- the literal's text opens with its quote, so it is read as an item
    have hbody := toList_callQuote_opens s
    cases items with
    | nil =>
      rw [List.map_singleton, String.intercalate_singleton, hbody, List.cons_append]
      apply readItems_last
      rw [← List.cons_append, ← hbody, readLiteral_callQuote]
    | cons t items =>
      -- the first literal, then `, ` and the others
      have htext : (", ".intercalate ((s :: t :: items).map callQuote)).toList ++ ']' :: rest =
          (callQuote s).toList ++ ',' :: ' ' ::
            ((", ".intercalate ((t :: items).map callQuote)).toList ++ ']' :: rest) := by
        simp [String.intercalate_cons_cons]
      rw [htext, hbody, List.cons_append]
      rw [readItems_next (by rw [← List.cons_append, ← hbody, readLiteral_callQuote]), ih]
      rfl

/-- A string argument reads back as itself, whatever follows it. -/
theorem readStringArgument_str (s : String) (rest : List Char) :
    readStringArgument ((CallArgument.str s).render.toList ++ rest) = some (.str s, rest) := by
  have hbody := toList_callQuote_opens s
  rw [CallArgument.render, hbody, List.cons_append, readStringArgument]
  · rw [← List.cons_append, ← hbody, readLiteral_callQuote]
    rfl
  -- a literal opens with a quote, which no other form does
  all_goals
    intro _ h
    exact absurd (List.cons.inj h).1 (by decide)

/-- An optional string argument reads back as itself, whatever follows it. -/
theorem readStringArgument_optStr (o : Option String) (rest : List Char) :
    readStringArgument ((CallArgument.optStr o).render.toList ++ rest) =
      some (.optStr o, rest) := by
  cases o with
  | none =>
    rw [CallArgument.render]
    rfl
  | some s =>
    have htext : (CallArgument.optStr (some s)).render.toList ++ rest =
        'S' :: 'o' :: 'm' :: 'e' :: '(' :: ((callQuote s).toList ++ ')' :: rest) := by
      simp [CallArgument.render]
    rw [htext, readStringArgument, readLiteral_callQuote]
    rfl

/-- A string list argument reads back as itself, whatever follows it. -/
theorem readStringArgument_strList (items : List String) (rest : List Char) :
    readStringArgument ((CallArgument.strList items).render.toList ++ rest) =
      some (.strList items, rest) := by
  have htext : (CallArgument.strList items).render.toList ++ rest =
      '&' :: '[' :: ((", ".intercalate (items.map callQuote)).toList ++ ']' :: rest) := by
    simp [CallArgument.render]
  rw [htext, readStringArgument, readItems_intercalate]
  rfl

/-! ## Literals stand for their strings -/

/-- A builder call writes every string as a literal of the generated code that stands for
    exactly that string: between its quotes no control character is left raw; read by the
    rules of the generated code, it gives the string back and ends at its closing quote,
    whatever text follows; and so the string, optional string and string list arguments of a
    call read back as themselves. -/
theorem callQuote_denotes_its_string :
    (∀ s : String, ∃ body : String, callQuote s = "\"" ++ body ++ "\"" ∧
        ∀ c ∈ body.toList, Unicode.isControl c = false) ∧
      (∀ (s : String) (rest : List Char),
        readLiteral ((callQuote s).toList ++ rest) = some (s, rest)) ∧
      (∀ (s : String) (rest : List Char),
        readStringArgument ((CallArgument.str s).render.toList ++ rest) = some (.str s, rest)) ∧
      (∀ (o : Option String) (rest : List Char),
        readStringArgument ((CallArgument.optStr o).render.toList ++ rest) =
          some (.optStr o, rest)) ∧
      ∀ (items : List String) (rest : List Char),
        readStringArgument ((CallArgument.strList items).render.toList ++ rest) =
          some (.strList items, rest) := by
  have hbody : ∀ s : String, ∃ body : String, callQuote s = "\"" ++ body ++ "\"" ∧
      ∀ c ∈ body.toList, Unicode.isControl c = false := by
    intro s
    refine ⟨String.join (s.toList.map callEscape), rfl, fun c hc => ?_⟩
    -- the body's characters are the literal's
    apply isControl_callQuote s c
    simp only [callQuote, String.toList_append, List.mem_append]
    exact .inl (.inr hc)
  exact ⟨hbody, readLiteral_callQuote, readStringArgument_str, readStringArgument_optStr,
    readStringArgument_strList⟩

example : (CallArgument.str "say \"hi\"\n\\").render = "\"say \\\"hi\\\"\\n\\\\\"" := by decide

example : callQuote "a\x01" = "\"a\\u\x7b1\x7d\"" := by decide

end CallLiteral

end PgMigrate
