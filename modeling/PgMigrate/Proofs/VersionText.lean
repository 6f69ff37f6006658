import Mathlib
import PgMigrate.Version
import PgMigrate.Proofs.TextReadBack
/-
  The grammar of version text, and its round trip.

  A version is read from its text with blanks at both ends dropped, cut at every `.`: the
  first part is the major component, the second, when there is one, the minor; what follows a
  second `.` is not looked at.  A component is read as an unsigned 32-bit number is: an
  optional `+`, then at least one ASCII digit, of value at most `2 ^ 32 - 1`.

  `ComponentText` and `VersionText` state that grammar on the text itself, with no cutting:
  a component holds no `.`, so the text's first `.` ends the major component and its second
  `.` (if any) ends the minor one.

  Main statements:
  * `readComponent?_eq_some_iff`: a component is read exactly from the text of the grammar;
  * `parse_eq_ok_iff`: a version is read exactly from trimmed text of the grammar, and the
    version is its components, the minor one `0` when absent;
  * `parse_render`: every version of 32-bit components reads back from its text.
-/
namespace PgMigrate

namespace ServerVersion

/-- Text that an unsigned 32-bit reader takes as `n`: an optional `+`, then at least one ASCII
    digit, standing for `n`, and `n` at most `2 ^ 32 - 1`. -/
def ComponentText (t : String) (n : Nat) : Prop :=
  ∃ ds : List Char, (t.toList = ds ∨ t.toList = '+' :: ds) ∧ ds ≠ [] ∧
    (∀ c ∈ ds, c.isDigit = true) ∧ Nat.ofDigitChars 10 ds 0 = n ∧ n ≤ 4294967295

/-- Version text, once trimmed: a major component, then either nothing (the minor component
    is `0`), or `.` and a minor component, itself followed by nothing or by `.` and anything. -/
def VersionText (t : String) (v : ServerVersion) : Prop :=
  ∃ M, ComponentText M v.major ∧
    (t = M ∧ v.minor = 0 ∨
      ∃ N, ComponentText N v.minor ∧
        (t = M ++ "." ++ N ∨ ∃ rest, t = M ++ "." ++ N ++ "." ++ rest))

/-! ## Components -/

theorem allDigits_iff {ds : List Char} :
    allDigits ds = true ↔ ds ≠ [] ∧ ∀ c ∈ ds, c.isDigit = true := by
  simp [allDigits, List.isEmpty_eq_false_iff]

/-- A component is read exactly from the text of the grammar. -/
theorem readComponent?_eq_some_iff {t : String} {n : Nat} :
    readComponent? t = some n ↔ ComponentText t n := by
  unfold readComponent? readInteger?
  split
  rename_i negative digits hsign
  -- with no sign allowed, a leading `+` is dropped and anything else is kept as a digit
  have hdigits : negative = false ∧
      (t.toList = '+' :: digits ∨ (digits = t.toList ∧ ∀ r, t.toList ≠ '+' :: r)) := by
    split at hsign
    · simp_all
    · rename_i rest h
      simp only [Bool.false_eq_true, ↓reduceIte, Prod.mk.injEq] at hsign
      obtain ⟨rfl, rfl⟩ := hsign
      refine ⟨rfl, .inr ⟨h.symm, fun r hr => ?_⟩⟩
      rw [h] at hr
      simp at hr
    · simp_all
  obtain ⟨rfl, hform⟩ := hdigits
  rw [digitsValue_eq_ofDigitChars]
  constructor
  · intro h
    by_cases hd : allDigits digits = true
    · obtain ⟨hne, hall⟩ := allDigits_iff.1 hd
      simp only [hd, Bool.false_eq_true, ↓reduceIte, componentLimit] at h
      split at h
      · rename_i hr
        simp only [Option.map_some, Option.some.injEq, Int.toNat_natCast] at h
        refine ⟨digits, ?_, hne, hall, h, ?_⟩
        · rcases hform with h1 | ⟨h1, -⟩
          · exact .inr h1
          · exact .inl h1.symm
        · omega
      · simp at h
    · simp [hd] at h
  · rintro ⟨ds, hds, hne, hall, hval, hle⟩
    -- the digits read are `ds`: a text of digits has no sign to drop
    have hdig : digits = ds := by
      rcases hform with h1 | ⟨h1, hplus⟩ <;> rcases hds with h2 | h2
      · have hplusDigit := hall '+' (by rw [← h2, h1]; exact List.mem_cons_self)
        exact absurd hplusDigit (by decide)
      · rw [h1] at h2
        exact (List.cons.inj h2).2
      · rw [h1, h2]
      · exact absurd h2 (hplus ds)
    subst hdig
    have hd : allDigits digits = true := allDigits_iff.2 ⟨hne, hall⟩
    simp only [hd, Bool.false_eq_true, ↓reduceIte, componentLimit, hval]
    rw [if_pos (by omega)]
    simp

theorem ComponentText.ne_empty {t : String} {n : Nat} (h : ComponentText t n) : t ≠ "" := by
  obtain ⟨ds, hds, hne, -⟩ := h
  intro ht
  subst ht
  rcases hds with h | h <;> simp at h
  exact hne h

/-- A component holds no dot. -/
theorem ComponentText.dot_not_mem {t : String} {n : Nat} (h : ComponentText t n) :
    '.' ∉ t.toList := by
  obtain ⟨ds, hds, -, hall, -⟩ := h
  have hds' : '.' ∉ ds := fun hmem => absurd (hall '.' hmem) (by decide)
  rcases hds with h | h <;> rw [h]
  · exact hds'
  · simpa using hds'

/-- The decimal text of a 32-bit number is a component. -/
theorem componentText_toString {n : Nat} (h : n ≤ 4294967295) : ComponentText (toString n) n :=
  ⟨Nat.toDigits 10 n, .inl (by simp [Nat.toString_eq_repr, Nat.toList_repr]),
    Nat.toDigits_ne_nil, fun _ hc => isDigit_of_mem_toDigits hc, Nat.ofDigitChars_ten_toDigits, h⟩

/-! ## Cutting at dots -/

/-- Text before the first dot is the first part. -/
theorem splitOn_dot_append {first : List Char} (h : '.' ∉ first) (rest : List Char) :
    (first ++ '.' :: rest).splitOn '.' = first :: rest.splitOn '.' := by
  rw [List.splitOn_append_cons_of_beq first rest (by decide), List.splitOn_eq_singleton h]
  rfl

/-- Text is cut at its dots: either it has none, or its first part ends at the first dot. -/
theorem splitOn_dot_cases (cs : List Char) :
    ('.' ∉ cs ∧ cs.splitOn '.' = [cs]) ∨
      ∃ first rest, '.' ∉ first ∧ cs = first ++ '.' :: rest ∧
        cs.splitOn '.' = first :: rest.splitOn '.' := by
  induction cs with
  | nil => exact .inl ⟨List.not_mem_nil, rfl⟩
  | cons c cs ih =>
    by_cases hc : c = '.'
    · subst hc
      exact .inr ⟨[], cs, List.not_mem_nil, rfl, splitOn_dot_append List.not_mem_nil cs⟩
    · rcases ih with ⟨hno, -⟩ | ⟨first, rest, hno, rfl, -⟩
      · have hno' : '.' ∉ c :: cs := by simp [hno, Ne.symm hc]
        exact .inl ⟨hno', List.splitOn_eq_singleton hno'⟩
      · have hno' : '.' ∉ c :: first := by simp [hno, Ne.symm hc]
        exact .inr ⟨c :: first, rest, hno', rfl, splitOn_dot_append hno' rest⟩

theorem toList_dot_append (M N : String) :
    (M ++ "." ++ N).toList = M.toList ++ '.' :: N.toList := by
  simp

/-! ## Versions -/

/-- What reading a version does with the parts of the trimmed text. -/
theorem parse_eq_ok_iff_parts {s : String} {v : ServerVersion} :
    parse s = .ok v ↔
      ∃ M rest, ((trimWhite s).toList.splitOn '.').map String.ofList = M :: rest ∧
        M ≠ "" ∧ readComponent? M = some v.major ∧
        (rest = [] ∧ v.minor = 0 ∨
          ∃ N more, rest = N :: more ∧ readComponent? N = some v.minor) := by
  unfold parse
  dsimp only
  generalize ((trimWhite s).toList.splitOn '.').map String.ofList = parts
  obtain ⟨major, minor⟩ := v
  rcases parts with _ | ⟨M, rest⟩
  · simp
  · by_cases hM : M = ""
    · simp [hM]
    · have hne : M.isEmpty = false := by simpa [String.isEmpty_iff] using hM
      cases hread : readComponent? M with
      | none => simp [hne, hread]
      | some ma =>
        rcases rest with _ | ⟨N, more⟩
        · simp [hne, hM, hread, eq_comm]
        · cases hN : readComponent? N <;> simp [hne, hM, hread, hN]

/-- The parts a version is read from are those of the grammar. -/
theorem parts_iff_versionText {t : String} {v : ServerVersion} :
    (∃ M rest, (t.toList.splitOn '.').map String.ofList = M :: rest ∧
        M ≠ "" ∧ readComponent? M = some v.major ∧
        (rest = [] ∧ v.minor = 0 ∨
          ∃ N more, rest = N :: more ∧ readComponent? N = some v.minor)) ↔
      VersionText t v := by
  constructor
  · rintro ⟨M, rest, hparts, -, hM, hrest⟩
    have hMtext := readComponent?_eq_some_iff.1 hM
    rcases splitOn_dot_cases t.toList with ⟨-, hsplit⟩ | ⟨first, tail, -, ht, hsplit⟩
    · -- no dot: the whole text is the major component
      rw [hsplit] at hparts
      simp only [List.map_cons, List.map_nil, String.ofList_toList, List.cons.injEq] at hparts
      obtain ⟨rfl, rfl⟩ := hparts
      rcases hrest with ⟨-, h0⟩ | ⟨N, more, hnil, -⟩
      · exact ⟨t, hMtext, .inl ⟨rfl, h0⟩⟩
      · cases hnil
    · rw [hsplit] at hparts
      simp only [List.map_cons, List.cons.injEq] at hparts
      obtain ⟨rfl, rfl⟩ := hparts
      rcases hrest with ⟨hnil, -⟩ | ⟨N, more, hcons, hN⟩
      · exact absurd hnil (by simp)
      refine ⟨String.ofList first, hMtext, .inr ⟨N, readComponent?_eq_some_iff.1 hN, ?_⟩⟩
      rcases splitOn_dot_cases tail with ⟨-, hsplit'⟩ | ⟨second, more', hsecond, htail, -⟩
      · -- one dot: the minor component runs to the end
        rw [hsplit'] at hcons
        simp only [List.map_cons, List.map_nil, List.cons.injEq] at hcons
        obtain ⟨rfl, -⟩ := hcons
        left
        rw [← String.toList_inj, toList_dot_append, ht]
        simp
      · -- a second dot: what follows it is left alone
        rw [htail, splitOn_dot_append hsecond more'] at hcons
        simp only [List.map_cons, List.cons.injEq] at hcons
        obtain ⟨rfl, -⟩ := hcons
        right
        refine ⟨String.ofList more', ?_⟩
        rw [← String.toList_inj, toList_dot_append, ht, htail]
        simp
  · rintro ⟨M, hM, hform⟩
    have hMread := readComponent?_eq_some_iff.2 hM
    refine ⟨M, ?_⟩
    rcases hform with ⟨rfl, h0⟩ | ⟨N, hN, hform⟩
    · refine ⟨[], ?_, hM.ne_empty, hMread, .inl ⟨rfl, h0⟩⟩
      rw [List.splitOn_eq_singleton hM.dot_not_mem]
      simp
    have hNread := readComponent?_eq_some_iff.2 hN
    rcases hform with rfl | ⟨rest, rfl⟩
    · refine ⟨[N], ?_, hM.ne_empty, hMread, .inr ⟨N, [], rfl, hNread⟩⟩
      rw [toList_dot_append, splitOn_dot_append hM.dot_not_mem,
        List.splitOn_eq_singleton hN.dot_not_mem]
      simp
    · refine ⟨N :: (rest.toList.splitOn '.').map String.ofList, ?_, hM.ne_empty, hMread,
        .inr ⟨N, _, rfl, hNread⟩⟩
      have htext : (M ++ "." ++ N ++ "." ++ rest).toList =
          M.toList ++ '.' :: (N.toList ++ '.' :: rest.toList) := by
        simp
      rw [htext, splitOn_dot_append hM.dot_not_mem, splitOn_dot_append hN.dot_not_mem]
      simp

/-- A version is read exactly from trimmed text of the grammar. -/
theorem parse_eq_ok_iff {s : String} {v : ServerVersion} :
    parse s = .ok v ↔ VersionText (trimWhite s) v :=
  parse_eq_ok_iff_parts.trans parts_iff_versionText

/-- What follows a second dot is not looked at; a dot with nothing after it is refused. -/
example : parse " 11.4.x " = .ok ⟨11, 4⟩ ∧ parse "10." = .error ⟨"10."⟩ := by
  constructor <;> rfl

/-- Text that is not a version is refused, naming the text trimmed. -/
theorem parse_error_eq {s : String} {e : VersionError} (h : parse s = .error e) :
    e = ⟨trimWhite s⟩ := by
  unfold parse at h
  dsimp only at h
  split at h
  · exact (Except.error.inj h).symm
  · split at h
    · exact (Except.error.inj h).symm
    · split at h
      · cases h
      · split at h
        · cases h
        · exact (Except.error.inj h).symm

/-! ## The round trip -/

theorem trimStartChars_of_forall {cs : List Char}
    (h : ∀ c ∈ cs, Unicode.isWhiteSpace c = false) :
    trimStartChars cs = cs := by
  cases cs with
  | nil => rfl
  | cons c cs => simp [trimStartChars, h c List.mem_cons_self]

/-- Text with no blank in it is kept whole by trimming. -/
theorem trimWhite_of_forall {s : String} (h : ∀ c ∈ s.toList, Unicode.isWhiteSpace c = false) :
    trimWhite s = s := by
  have hrev : ∀ c ∈ s.toList.reverse, Unicode.isWhiteSpace c = false := by
    simpa using h
  unfold trimWhite trimChars trimEndChars
  rw [trimStartChars_of_forall h, trimStartChars_of_forall hrev, List.reverse_reverse,
    String.ofList_toList]

/-- Every version of 32-bit components reads back from its text. -/
theorem parse_render {v : ServerVersion} (hmajor : v.major ≤ 4294967295)
    (hminor : v.minor ≤ 4294967295) : parse v.render = .ok v := by
  have hM := componentText_toString hmajor
  have hN := componentText_toString hminor
  -- digits and a dot: nothing to trim
  have htrim : trimWhite v.render = v.render := by
    apply trimWhite_of_forall
    intro c hc
    simp only [render, toList_dot_append, Nat.toString_eq_repr, Nat.toList_repr, List.mem_append,
      List.mem_cons] at hc
    rcases hc with hc | rfl | hc
    · exact isWhiteSpace_of_isDigit (isDigit_of_mem_toDigits hc)
    · decide
    · exact isWhiteSpace_of_isDigit (isDigit_of_mem_toDigits hc)
  rw [parse_eq_ok_iff, htrim]
  exact ⟨toString v.major, hM, .inr ⟨toString v.minor, hN, .inl rfl⟩⟩

/-- Reading a version accepts exactly trimmed text of its grammar, and the version read is its
    components, the minor one `0` when absent; any other text is refused, naming the text
    trimmed; and every version of 32-bit components reads back from its text. -/
theorem parse_accepts_exactly_version_text :
    (∀ s v, parse s = .ok v ↔ VersionText (trimWhite s) v) ∧
      (∀ s e, parse s = .error e → e = ⟨trimWhite s⟩) ∧
      ∀ v : ServerVersion, v.major ≤ 4294967295 → v.minor ≤ 4294967295 →
        parse v.render = .ok v :=
  ⟨fun _ _ => parse_eq_ok_iff, fun _ _ => parse_error_eq, fun _ => parse_render⟩

/-- The largest version reads back from its text. -/
theorem largestVersion_reads_back :
    ((4294967295 : Nat) ≤ 4294967295 ∧ (4294967295 : Nat) ≤ 4294967295) ∧
      parse (⟨4294967295, 4294967295⟩ : ServerVersion).render =
        .ok ⟨4294967295, 4294967295⟩ :=
  ⟨⟨Nat.le_refl _, Nat.le_refl _⟩,
    parse_accepts_exactly_version_text.2.2 ⟨4294967295, 4294967295⟩ (Nat.le_refl _)
      (Nat.le_refl _)⟩

end ServerVersion

end PgMigrate
