import Mathlib
import PgMigrate.Ident
import PgMigrate.Proofs.SortedSearch
/-
  Delimited identifiers read back by the server's rules.

  The server reads an identifier at the front of SQL text in one of two forms.  Between double
  quotes every character stands for itself, except that `""` stands for one `"`; the next lone
  `"` closes the name.  Bare, a word starts with an ASCII letter, `_` or a character beyond
  ASCII, and goes on with those, ASCII digits and `$`; it is folded to lower case, and a word
  that is then a reserved keyword is not an identifier.  `readIdentifier` reads by these rules
  and gives the name with the text that follows it.

  A name is written bare only when it is a plain lower-case word that is not reserved; the
  reserved keywords are found by binary search, which is right because the table is in
  ascending order.  Any other name is quoted with its quotes doubled, and reads back whatever
  it holds: the empty name, quotes, dots, blanks.

  Main statements:
  * `reservedKeywords_ascending`: the keyword table is in ascending order, so its search finds
    exactly its keywords (`isOk_binarySearch_reservedKeywords`);
  * `requiresQuoting_eq_false_iff`: a name is written bare exactly when it is a plain
    lower-case word, `[a-z_][a-z0-9_$]*`, and not a reserved keyword;
  * `readIdentifier_delimit`: every name, written delimited and followed by text that cannot
    go on with it, reads back as itself;
  * `outerDots_qualify`: a name written after its schema has exactly one dot outside double
    quotes, between the schema and the name, each delimited on its own.
-/
namespace PgMigrate

namespace Ident

/-! ## The server's reading -/

/-- A character that may start a bare word: an ASCII letter, `_`, or a character beyond
    ASCII. -/
def isWordStart (c : Char) : Bool := c.isAlpha || c == '_' || 128 ≤ c.toNat

/-- A character that may go on with a bare word: also an ASCII digit or `$`. -/
def isWordRest (c : Char) : Bool := isWordStart c || c.isDigit || c == '$'

/-- Reads the body of a quoted identifier up to its closing quote, `""` standing for one `"`:
    the name's characters and the text after the closing quote. -/
def readQuoted : List Char → Option (List Char × List Char)
  | [] => none
  | '"' :: '"' :: rest => (readQuoted rest).map fun r => ('"' :: r.1, r.2)
  | '"' :: rest => some ([], rest)
  | c :: rest => (readQuoted rest).map fun r => (c :: r.1, r.2)

/-- Reads an identifier at the front of a text: a quoted one with each `""` undoubled, or a
    bare word folded to lower case that is not a reserved keyword.  Gives the name and the
    text after it. -/
def readIdentifier : List Char → Option (String × List Char)
  | [] => none
  | '"' :: rest => (readQuoted rest).map fun r => (String.ofList r.1, r.2)
  | c :: rest =>
    if isWordStart c then
      let name := String.ofList (((c :: rest).takeWhile isWordRest).map Char.toLower)
      if name ∈ reservedKeywords then none else some (name, (c :: rest).dropWhile isWordRest)
    else none

/-- A plain lower-case word, `[a-z_][a-z0-9_$]*`. -/
def BareWord (s : String) : Prop :=
  ∃ c cs, s.toList = c :: cs ∧ (c.isLower ∨ c = '_') ∧
    ∀ d ∈ cs, d.isLower ∨ d.isDigit ∨ d = '_' ∨ d = '$'

/-- The positions, counted from `i`, of the dots outside double quotes, in text read from
    inside a quoted part when `quoted`: each `"` opens or closes one. -/
def outerDots (quoted : Bool) (i : Nat) : List Char → List Nat
  | [] => []
  | c :: cs =>
    if c = '"' then outerDots (!quoted) (i + 1) cs
    else if c = '.' ∧ quoted = false then i :: outerDots quoted (i + 1) cs
    else outerDots quoted (i + 1) cs

/-! ## The keyword table -/

set_option maxRecDepth 1024 in
/-- The reserved keywords are in ascending order. -/
theorem reservedKeywords_ascending : Ascending reservedKeywords := by
  -- comparing neighbours only: 76 comparisons rather than one per pair
  apply ascending_of_isChain
  decide

/-- The search of the keyword table finds exactly its keywords. -/
theorem isOk_binarySearch_reservedKeywords (name : String) :
    (binarySearch reservedKeywords name).isOk = true ↔ name ∈ reservedKeywords :=
  binarySearch_isOk_iff reservedKeywords_ascending

/-! ## Bare words -/

theorem isBareStart_eq (c : Char) : isBareStart c = (c.isLower || c == '_') := by
  simp [isBareStart, Char.isLower, Char.le_def]

theorem isBareRest_eq (c : Char) :
    isBareRest c = (c.isLower || c.isDigit || c == '_' || c == '$') := by
  rw [isBareRest, isBareStart_eq]
  cases c.isLower <;> cases c.isDigit <;> cases c == '_' <;> rfl

/-- A name is written bare exactly when it is a plain lower-case word and not reserved. -/
theorem requiresQuoting_eq_false_iff {s : String} :
    requiresQuoting s = false ↔ BareWord s ∧ s ∉ reservedKeywords := by
  have hsearch := isOk_binarySearch_reservedKeywords s
  unfold requiresQuoting BareWord
  cases hs : s.toList with
  | nil => simp
  | cons c cs =>
    have hkw : (binarySearch reservedKeywords s).isOk = false ↔ s ∉ reservedKeywords := by
      rw [← hsearch]
      simp
    simp only [Bool.or_eq_false_iff, Bool.not_eq_eq_eq_not, Bool.not_false, List.all_eq_true,
      isBareStart_eq, isBareRest_eq, hkw]
    simp [or_assoc]

/-- Folding to lower case keeps the characters of a bare word. -/
theorem toLower_of_isBareRest {c : Char} (h : isBareRest c = true) : c.toLower = c := by
  rw [isBareRest_eq] at h
  simp only [Char.isLower, Char.isDigit, Bool.or_eq_true, Bool.and_eq_true, decide_eq_true_eq,
    beq_iff_eq, UInt32.le_iff_toNat_le, ge_iff_le] at h
  unfold Char.toLower
  rw [dif_neg]
  simp only [ge_iff_le, UInt32.le_iff_toNat_le, not_and, Nat.not_le]
  -- a bare character lies outside `A`..`Z`: below it (digits, `$`) or above it (`_`, `a`..`z`)
  have hA : 'A'.val.toNat = 65 := rfl
  have hZ : 'Z'.val.toNat = 90 := rfl
  have ha : 'a'.val.toNat = 97 := rfl
  have h9 : '9'.val.toNat = 57 := rfl
  rcases h with ((h | h) | rfl) | rfl
  · omega
  · omega
  · decide
  · decide

theorem isWordRest_of_isBareRest {c : Char} (h : isBareRest c = true) : isWordRest c = true := by
  rw [isBareRest_eq] at h
  simp only [isWordRest, isWordStart, Char.isAlpha, Bool.or_eq_true] at h ⊢
  rcases h with ((h | h) | h) | h <;> simp [h]

/-- A bare character is neither a quote nor a dot. -/
theorem ne_of_isBareRest {c : Char} (h : isBareRest c = true) : c ≠ '"' ∧ c ≠ '.' := by
  constructor <;> rintro rfl <;> revert h <;> decide

/-- Every character of a plain lower-case word may go on with a bare word. -/
theorem BareWord.isBareRest {s : String} (hs : BareWord s) :
    ∀ d ∈ s.toList, isBareRest d = true := by
  obtain ⟨c, cs, hs, hc, hcs⟩ := hs
  intro d hd
  rw [hs] at hd
  rw [isBareRest_eq]
  rcases List.mem_cons.1 hd with rfl | hd
  · rcases hc with h | h <;> simp [h]
  · rcases hcs d hd with h | h | h | h <;> simp [h]

/-- A bare word followed by text that cannot go on with it reads back as itself. -/
theorem readIdentifier_bare {s : String} (hs : BareWord s) (hkw : s ∉ reservedKeywords)
    {rest : List Char} (hrest : ∀ d ∈ rest.head?, isWordRest d = false) :
    readIdentifier (s.toList ++ rest) = some (s, rest) := by
  have hbare := hs.isBareRest
  obtain ⟨c, cs, hs, hc, -⟩ := hs
  rw [hs] at hbare
  have hword : ∀ d ∈ c :: cs, isWordRest d = true :=
    fun d hd => isWordRest_of_isBareRest (hbare d hd)
  -- the word runs to the end of the name and no further
  have htake : (c :: (cs ++ rest)).takeWhile isWordRest = c :: cs := by
    rw [← List.cons_append, List.takeWhile_append_of_pos hword]
    cases rest with
    | nil => simp
    | cons d ds => simp [hrest d rfl]
  have hdrop : (c :: (cs ++ rest)).dropWhile isWordRest = rest := by
    rw [← List.cons_append, List.dropWhile_append_of_pos hword]
    cases rest with
    | nil => rfl
    | cons d ds => simp [hrest d rfl]
  have hlower : (c :: cs).map Char.toLower = c :: cs :=
    (List.map_congr_left fun d hd => toLower_of_isBareRest (hbare d hd)).trans (List.map_id _)
  have hname : String.ofList (c :: cs) = s := by
    rw [← hs, String.ofList_toList]
  have hstart : isWordStart c = true := by
    simp only [isWordStart, Char.isAlpha, Bool.or_eq_true, beq_iff_eq]
    rcases hc with h | h <;> simp [h]
  -- with `hquote` in the context the reader's quoted case is passed over
  have hquote : c ≠ '"' := by
    rintro rfl
    simp at hc
  rw [hs, List.cons_append]
  simp only [readIdentifier, hstart, htake, hlower, hname, hkw, hdrop, if_true, if_false]

/-! ## Quoted names -/

/-- Doubling the quotes never shortens a name. -/
theorem length_le_escapeQuotes (cs : List Char) : cs.length ≤ (escapeQuotes cs).length := by
  induction cs with
  | nil => simp [escapeQuotes]
  | cons c cs ih =>
    rw [escapeQuotes_cons]
    split <;> simp <;> omega

/-- A quoted body and its closing quote read back as the name, when no quote follows. -/
theorem readQuoted_escapeQuotes (cs : List Char) {rest : List Char}
    (hrest : rest.head? ≠ some '"') :
    readQuoted (escapeQuotes cs ++ '"' :: rest) = some (cs, rest) := by
  induction cs with
  | nil =>
    cases rest with
    | nil => rfl
    | cons d ds =>
      have hd : d ≠ '"' := fun h => hrest (by simp [h])
      simp [escapeQuotes, readQuoted, hd]
  | cons c cs ih =>
    rw [escapeQuotes_cons]
    by_cases hc : c = '"'
    · subst hc
      simp [readQuoted, ih]
    · simp [hc, readQuoted, ih]

/-- A name that must be quoted is written between quotes, its own quotes doubled. -/
theorem toList_delimit_of_requiresQuoting {s : String} (h : requiresQuoting s = true) :
    (delimit s).toList = '"' :: (escapeQuotes s.toList ++ ['"']) := by
  simp [delimit, h]

theorem delimit_of_requiresQuoting_eq_false {s : String} (h : requiresQuoting s = false) :
    delimit s = s := by
  simp [delimit, h]

/-- Every name, written delimited and followed by text that cannot go on with it, reads back
    as itself. -/
theorem readIdentifier_delimit (s : String) {rest : List Char}
    (hrest : ∀ d ∈ rest.head?, isWordRest d = false ∧ d ≠ '"') :
    readIdentifier ((delimit s).toList ++ rest) = some (s, rest) := by
  cases hq : requiresQuoting s
  · obtain ⟨hbare, hkw⟩ := requiresQuoting_eq_false_iff.1 hq
    rw [delimit_of_requiresQuoting_eq_false hq]
    exact readIdentifier_bare hbare hkw fun d hd => (hrest d hd).1
  · have hnq : rest.head? ≠ some '"' := fun h => (hrest '"' h).2 rfl
    rw [toList_delimit_of_requiresQuoting hq, List.cons_append, List.append_assoc,
      List.singleton_append]
    simp [readIdentifier, readQuoted_escapeQuotes _ hnq]

/-- A name is written as itself exactly when it is a plain lower-case word and not reserved. -/
theorem delimit_eq_self_iff {s : String} :
    delimit s = s ↔ BareWord s ∧ s ∉ reservedKeywords := by
  rw [← requiresQuoting_eq_false_iff]
  constructor
  · intro h
    cases hq : requiresQuoting s
    · rfl
    · -- a quoted name is longer than the name
      have hlen := congrArg (fun t => t.toList.length) h
      simp only [toList_delimit_of_requiresQuoting hq, List.length_cons, List.length_append] at hlen
      have := length_le_escapeQuotes s.toList
      omega
  · exact delimit_of_requiresQuoting_eq_false

/-! ## Qualified names -/

/-- Text holding neither a quote nor a dot adds no dot outside quotes and changes no
    quoting. -/
theorem outerDots_append_plain {cs : List Char} (h : ∀ c ∈ cs, c ≠ '"' ∧ c ≠ '.')
    (quoted : Bool) (i : Nat) (rest : List Char) :
    outerDots quoted i (cs ++ rest) = outerDots quoted (i + cs.length) rest := by
  induction cs generalizing i with
  | nil => simp
  | cons c cs ih =>
    obtain ⟨hq, hd⟩ := h c List.mem_cons_self
    rw [List.cons_append, outerDots, if_neg hq, if_neg (fun h => hd h.1),
      ih (fun d hd => h d (List.mem_cons_of_mem _ hd))]
    simp only [List.length_cons]
    congr 1
    omega

/-- Inside quotes, a body with its quotes doubled adds no dot, and the closing quote ends the
    quoted part. -/
theorem outerDots_escapeQuotes (cs : List Char) (i : Nat) (rest : List Char) :
    outerDots true i (escapeQuotes cs ++ '"' :: rest) =
      outerDots false (i + (escapeQuotes cs).length + 1) rest := by
  induction cs generalizing i with
  | nil => simp [escapeQuotes, outerDots]
  | cons c cs ih =>
    rw [escapeQuotes_cons]
    by_cases hc : c = '"'
    · -- a doubled quote closes the quoted part and opens it again
      subst hc
      rw [if_pos rfl]
      simp only [List.cons_append, List.nil_append]
      rw [outerDots, if_pos rfl, outerDots, if_pos rfl, Bool.not_true, Bool.not_false, ih]
      simp only [List.length_cons]
      congr 1
      omega
    · rw [if_neg hc]
      simp only [List.cons_append, List.nil_append]
      rw [outerDots, if_neg hc, if_neg (fun h => absurd h.2 (by decide)), ih]
      simp only [List.length_cons]
      congr 1
      omega

/-- A delimited name adds no dot outside quotes and leaves quoting closed. -/
theorem outerDots_delimit (s : String) (i : Nat) (rest : List Char) :
    outerDots false i ((delimit s).toList ++ rest) =
      outerDots false (i + (delimit s).toList.length) rest := by
  cases hq : requiresQuoting s
  · -- a bare word holds letters, digits, `_` and `$` only
    obtain ⟨hword, -⟩ := requiresQuoting_eq_false_iff.1 hq
    rw [delimit_of_requiresQuoting_eq_false hq]
    exact outerDots_append_plain (fun d hd => ne_of_isBareRest (hword.isBareRest d hd)) _ _ _
  · rw [toList_delimit_of_requiresQuoting hq, List.cons_append, List.append_assoc,
      List.singleton_append, outerDots, if_pos rfl, Bool.not_false, outerDots_escapeQuotes]
    simp only [List.length_cons, List.length_append, List.length_nil]
    congr 1
    omega

/-- A name written after its schema has exactly one dot outside double quotes, right after
    the delimited schema: the text before it is the delimited schema, the text after it the
    delimited name. -/
theorem outerDots_qualify (name schema : String) :
    outerDots false 0 (qualify name (some schema)).toList = [(delimit schema).toList.length] ∧
      (qualify name (some schema)).toList.take (delimit schema).toList.length =
        (delimit schema).toList ∧
      (qualify name (some schema)).toList.drop ((delimit schema).toList.length + 1) =
        (delimit name).toList := by
  have htext : (qualify name (some schema)).toList =
      (delimit schema).toList ++ '.' :: (delimit name).toList := by
    simp [qualify]
  refine ⟨?_, ?_, ?_⟩
  · have hname := outerDots_delimit name ((delimit schema).toList.length + 1) []
    rw [List.append_nil] at hname
    rw [htext, outerDots_delimit, Nat.zero_add, outerDots, if_neg (by decide),
      if_pos ⟨rfl, rfl⟩, hname]
    rfl
  · rw [htext, List.take_left]
  · rw [htext, List.drop_append]
    simp

/-- Delimited names read back by the server's rules.  The keyword table is in ascending
    order, so its binary search finds exactly the reserved keywords; a name is written as
    itself exactly when it is a plain lower-case word, `[a-z_][a-z0-9_$]*`, that is not
    reserved; every name, written delimited and followed by text that cannot go on with it,
    reads back as itself; and a name written after its schema has exactly one dot outside
    double quotes, with the delimited schema before it and the delimited name after it. -/
theorem delimit_reads_back :
    Ascending reservedKeywords ∧
      (∀ s, delimit s = s ↔ BareWord s ∧ s ∉ reservedKeywords) ∧
      (∀ s rest, (∀ d ∈ rest.head?, isWordRest d = false ∧ d ≠ '"') →
        readIdentifier ((delimit s).toList ++ rest) = some (s, rest)) ∧
      ∀ name schema,
        outerDots false 0 (qualify name (some schema)).toList =
            [(delimit schema).toList.length] ∧
          (qualify name (some schema)).toList.take (delimit schema).toList.length =
            (delimit schema).toList ∧
          (qualify name (some schema)).toList.drop ((delimit schema).toList.length + 1) =
            (delimit name).toList :=
  ⟨reservedKeywords_ascending, fun _ => delimit_eq_self_iff,
    fun s _ hrest => readIdentifier_delimit s hrest, outerDots_qualify⟩

/-- A name holding a quote, followed by a dot, reads back. -/
theorem quotedName_reads_back :
    (∀ d ∈ ['.', 'x'].head?, isWordRest d = false ∧ d ≠ '"') ∧
      readIdentifier ((delimit "say\"hi").toList ++ ['.', 'x']) = some ("say\"hi", ['.', 'x']) := by
  have hrest : ∀ d ∈ ['.', 'x'].head?, isWordRest d = false ∧ d ≠ '"' := by
    intro d hd
    simp only [List.head?_cons, Option.mem_def, Option.some.injEq] at hd
    subst hd
    decide
  exact ⟨hrest, delimit_reads_back.2.2.1 "say\"hi" ['.', 'x'] hrest⟩

end Ident

end PgMigrate
