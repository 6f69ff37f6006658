import PgMigrate.Proofs.Scanner
import PgMigrate.SqlType
import PgMigrate.Binary.Text
import PgMigrate.Text.Quote
/-
  Texts the library writes, as the statement scanner reads them.

  Every piece of SQL text the library writes on its own is neutral for the statement
  scanner: it closes every quote it opens and never ends a statement.  Digits, keywords and
  bare identifiers hold no quote and no `;` (`Inert`); a quoted identifier doubles its `"`
  and a string constant its `'`, so each doubled quote reopens what it closed.  What matters
  for the next piece is recorded as well: a string constant and a quoted identifier end calm
  (anything may follow), a bare identifier ending in `e` only settled (anything but a quote).

  Main statements: `Inert.settled`, `delimit_settled`, `qualify_settled`, `sqlQuote_calm`,
  `storeType_settled`.
-/
namespace PgMigrate

open ScanState

/-! ## Texts without quotes -/

/-- A text with no quote of either kind and no `;`. -/
def Inert (s : String) : Prop := ∀ c ∈ s.toList, c ≠ '\'' ∧ c ≠ '"' ∧ c ≠ ';'

-- decided along the text's characters, not over every character there is
instance (s : String) : Decidable (Inert s) := List.decidableBAll _ s.toList

/-- Outside quotes and not after a `;`, the scanner stays so through a text without quotes and
    without `;`. -/
theorem run_inert {cs : List Char} (h : ∀ c ∈ cs, c ≠ '\'' ∧ c ≠ '"' ∧ c ≠ ';') :
    ∀ t : ScanState, t.outside = true → t ≠ .semicolon →
      ∃ u, t.run cs = some u ∧ u.outside = true ∧ u ≠ .semicolon := by
  induction cs with
  | nil => exact fun t ht hs => ⟨t, rfl, ht, hs⟩
  | cons c cs ih =>
    intro t ht hs
    obtain ⟨h1, h2, h3⟩ := h c (by simp)
    have hstep : t.step c = some (after c) := by
      rw [step_of_outside ht]
      simp [stepOutside, h1, h2, hs]
    rw [run_cons, hstep, Option.bind_some]
    exact ih (fun d hd => h d (by simp [hd])) (after c) (outside_after c) (after_ne_semicolon h3)

theorem Inert.settled {s : String} (h : Inert s) : Settled s := run_inert h .plain rfl (by simp)

/-- A text without quotes may follow any settled text. -/
theorem Settled.append_inert {a b : String} (ha : Settled a) (hb : Inert b) : Settled (a ++ b) :=
  ha.append hb.settled (.of_settled ha fun h => (hb '\'' (List.mem_of_mem_head? h)).1 rfl)

@[simp] theorem inert_append {a b : String} : Inert (a ++ b) ↔ Inert a ∧ Inert b := by
  simp only [Inert, String.toList_append, List.forall_mem_append]

theorem inert_ofList {cs : List Char} :
    Inert (String.ofList cs) ↔ ∀ c ∈ cs, c ≠ '\'' ∧ c ≠ '"' ∧ c ≠ ';' := by
  simp [Inert]

theorem Inert.ofList_of_subset {s : String} (h : Inert s) {cs : List Char}
    (hsub : ∀ c ∈ cs, c ∈ s.toList) : Inert (String.ofList cs) :=
  inert_ofList.2 fun c hc => h c (hsub c hc)

/-! ## Numbers -/

theorem mem_toDigitsCore {base fuel n : Nat} {ds : List Char} {c : Char}
    (h : c ∈ Nat.toDigitsCore base fuel n ds) : c ∈ ds ∨ ∃ d, c = Nat.digitChar d := by
  induction fuel generalizing n ds with
  | zero => exact .inl (by simpa [Nat.toDigitsCore] using h)
  | succ fuel ih =>
    simp only [Nat.toDigitsCore] at h
    -- the digit just produced is pushed in front of the ones before it
    have hpush : c ∈ Nat.digitChar (n % base) :: ds → c ∈ ds ∨ ∃ d, c = Nat.digitChar d := by
      intro hc
      rcases List.mem_cons.1 hc with rfl | hc
      · exact .inr ⟨_, rfl⟩
      · exact .inl hc
    split at h
    · exact hpush h
    · rcases ih h with h | h
      · exact hpush h
      · exact .inr h

theorem mem_toDigits {b n : Nat} {c : Char} (h : c ∈ Nat.toDigits b n) :
    ∃ d, c = Nat.digitChar d := by
  rcases mem_toDigitsCore h with h | h
  · simp at h
  · exact h

theorem inert_digits (b n : Nat) : Inert (String.ofList (Nat.toDigits b n)) := by
  rw [inert_ofList]
  intro c hc
  obtain ⟨d, rfl⟩ := mem_toDigits hc
  exact ⟨Nat.digitChar_ne _ (by decide), Nat.digitChar_ne _ (by decide),
    Nat.digitChar_ne _ (by decide)⟩

theorem inert_natToString (n : Nat) : Inert (toString n) := inert_digits 10 n

theorem inert_intToString (n : Int) : Inert (toString n) := by
  rw [Int.toString_eq_repr]
  cases n with
  | ofNat m => exact inert_digits 10 m
  | negSucc m =>
    show Inert ("-" ++ Nat.repr (m + 1))
    exact inert_append.2 ⟨by decide, inert_digits 10 (m + 1)⟩

theorem inert_replicate (n : Nat) (c : Char) (hc : c ≠ '\'' ∧ c ≠ '"' ∧ c ≠ ';') :
    Inert (String.ofList (List.replicate n c)) :=
  inert_ofList.2 fun _ hd => (List.mem_replicate.1 hd).2 ▸ hc

theorem inert_positionalText (c : Nat) (k : Int) (pointZero : Bool) :
    Inert (positionalText c k pointZero) := by
  have hds := inert_natToString c
  have hzeros := fun n => inert_replicate n '0' (by decide)
  unfold positionalText
  simp only
  split
  · refine inert_append.2 ⟨inert_append.2 ⟨hds, hzeros _⟩, ?_⟩
    split <;> decide
  · split
    · refine inert_append.2 ⟨inert_append.2 ⟨hds.ofList_of_subset fun d hd => ?_, by decide⟩,
        hds.ofList_of_subset fun d hd => ?_⟩
      · exact List.mem_of_mem_take hd
      · exact List.mem_of_mem_drop hd
    · exact inert_append.2 ⟨inert_append.2 ⟨by decide, hzeros _⟩, hds⟩

theorem inert_exponentText (c : Nat) (k : Int) : Inert (exponentText c k) := by
  have hds := inert_natToString c
  unfold exponentText
  simp only
  refine inert_append.2 ⟨inert_append.2 ⟨?_, by decide⟩, inert_intToString _⟩
  split
  · rename_i d rest _ heq
    rw [inert_ofList]
    intro x hx
    rcases List.mem_cons.1 hx with rfl | hx
    · exact hds x (by rw [heq]; simp)
    · rcases List.mem_cons.1 hx with rfl | hx
      · decide
      · exact hds x (by rw [heq]; simp [hx])
  · exact hds.ofList_of_subset fun _ h => h

/-- A float's text holds no quote and no `;` when its style's texts for NaN and infinity hold
    none. -/
theorem inert_render (st : FloatStyle) (hn : Inert st.nan) (hi : Inert st.infinity)
    (f : BinaryFormat) (v : BinaryValue) : Inert (st.render f v) := by
  have hsign : ∀ neg : Bool, Inert (if neg then "-" else "") := by
    intro neg
    cases neg <;> decide
  unfold FloatStyle.render
  split
  · exact hn
  · exact inert_append.2 ⟨hsign _, hi⟩
  · simp only
    split
    · exact inert_append.2 ⟨hsign _, inert_exponentText _ _⟩
    · exact inert_append.2 ⟨hsign _, inert_positionalText _ _ _⟩

/-! ## Identifiers -/

theorem inert_of_bareRest {c : Char} (h : Ident.isBareRest c = true) :
    c ≠ '\'' ∧ c ≠ '"' ∧ c ≠ ';' := by
  refine ⟨?_, ?_, ?_⟩ <;> rintro rfl <;> revert h <;> decide

/-- The body of a quoted identifier, every `"` doubled, read inside it: each doubled quote
    closes the identifier and opens it again, and the last quote closes it. -/
theorem run_escapeQuotes (cs : List Char) :
    (ScanState.quoted '"' false).run (Ident.escapeQuotes cs ++ ['"']) = some .plain := by
  induction cs with
  | nil => rfl
  | cons c cs ih =>
    rw [Ident.escapeQuotes_cons, List.append_assoc]
    by_cases hc : c = '"'
    · subst hc
      rw [if_pos rfl]
      exact ih
    · rw [if_neg hc]
      simp [step, hc, ih]

/-- A name written bare is a letter or `_` followed by letters, digits, `_` or `$`. -/
theorem bare_of_requiresQuoting {name : String} (h : Ident.requiresQuoting name = false) :
    ∃ c rest, name.toList = c :: rest ∧ Ident.isBareStart c = true ∧
      ∀ d ∈ rest, Ident.isBareRest d = true := by
  unfold Ident.requiresQuoting at h
  split at h
  · cases h
  · rename_i c rest hl
    refine ⟨c, rest, hl, ?_, ?_⟩ <;> simp_all

theorem delimit_ne_empty (name : String) : Ident.delimit name ≠ "" := by
  unfold Ident.delimit
  split
  · rw [ne_eq, ← String.toList_inj]
    simp
  · rename_i h
    obtain ⟨c, rest, hl, -⟩ := bare_of_requiresQuoting (Bool.of_not_eq_true h)
    rw [ne_eq, ← String.toList_inj, hl]
    simp

/-- A delimited name starts with a letter, `_` or a double quote. -/
theorem delimit_quietStart (name : String) : QuietStart (Ident.delimit name) := by
  unfold Ident.delimit
  split
  · simp [QuietStart]
  · rename_i h
    obtain ⟨c, rest, hl, hc, -⟩ := bare_of_requiresQuoting (Bool.of_not_eq_true h)
    unfold QuietStart
    rw [hl]
    constructor <;> rintro ⟨⟩ <;> revert hc <;> decide

/-- A delimited name leaves the scanner outside quotes, not after `;`: a quoted name ends
    where it started, a bare one holds no quote and no `;`. -/
theorem delimit_settled (name : String) : Settled (Ident.delimit name) := by
  unfold Ident.delimit
  split
  · refine Calm.settled (.inl ?_)
    simp only [String.toList_ofList, List.cons_append, run_cons]
    exact run_escapeQuotes name.toList
  · rename_i h
    obtain ⟨c, rest, hl, hc, hrest⟩ := bare_of_requiresQuoting (Bool.of_not_eq_true h)
    apply Inert.settled
    intro d hd
    rw [hl] at hd
    rcases List.mem_cons.1 hd with rfl | hd
    · exact inert_of_bareRest (by simp [Ident.isBareRest, hc])
    · exact inert_of_bareRest (hrest d hd)

theorem qualify_settled (name : String) (schema : Option String) :
    Settled (Ident.qualify name schema) := by
  cases schema with
  | none => exact delimit_settled name
  | some s =>
    have hdot : Calm (Ident.delimit s ++ ".") := (delimit_settled s).neutral.append_glue (by decide)
    exact hdot.append_settled (delimit_settled name)

theorem qualify_quietStart (name : String) (schema : Option String) :
    QuietStart (Ident.qualify name schema) := by
  cases schema with
  | none => exact delimit_quietStart name
  | some s =>
    simp only [Ident.qualify, String.append_assoc]
    exact (delimit_quietStart s).append (delimit_ne_empty s) _

theorem qualify_ne_empty (name : String) (schema : Option String) :
    Ident.qualify name schema ≠ "" := by
  cases schema with
  | none => exact delimit_ne_empty name
  | some s =>
    simp only [Ident.qualify, ne_eq, ← String.toList_inj, String.toList_append]
    simp

/-! ## String constants -/

/-- The body of a string constant, every `'` doubled, read inside it: each doubled quote closes
    the string and reopens it without escapes, and the last quote closes it. -/
theorem run_sqlQuote_body (cs : List Char) :
    (ScanState.quoted '\'' false).run
      ((String.join (cs.map fun c => if c == '\'' then "''" else c.toString)).toList ++ ['\'']) =
      some (.closed false) := by
  induction cs with
  | nil => rfl
  | cons c cs ih =>
    rw [List.map_cons, String.join_cons, String.toList_append, List.append_assoc]
    by_cases hc : c = '\''
    · subst hc
      exact ih
    · have hb : (c == '\'') = false := by simpa using hc
      have hstep : (ScanState.quoted '\'' false).step c = some (.quoted '\'' false) := by
        simp [step, hc]
      simp only [hb, Bool.false_eq_true, ↓reduceIte, Char.toString_eq_singleton,
        String.toList_singleton, List.singleton_append, run_cons, hstep, Option.bind_some]
      exact ih

/-- A string constant ends calm: after its closing quote, a quote would only reopen a string
    without escapes. -/
theorem sqlQuote_calm (s : String) : Calm (sqlQuote s) := by
  refine .inr ?_
  unfold sqlQuote
  simp only [String.toList_append, List.append_assoc]
  exact run_sqlQuote_body s.toList

/-! ## Store types -/

/-- A store type leaves the scanner outside quotes and not after `;`; it starts with a letter,
    `_` or a double quote, and is never empty. -/
theorem storeType_settled (t : SqlType) :
    Settled t.storeType ∧ QuietStart t.storeType ∧ t.storeType ≠ "" := by
  induction t with
  | enum schema name =>
    exact ⟨qualify_settled name schema, qualify_quietStart name schema, qualify_ne_empty name schema⟩
  | range schema name _ _ =>
    exact ⟨qualify_settled name schema, qualify_quietStart name schema, qualify_ne_empty name schema⟩
  | array element ih =>
    obtain ⟨hs, hq, he⟩ := ih
    refine ⟨(hs.neutral.append_glue (by decide)).settled, hq.append he _, ?_⟩
    simp only [SqlType.storeType, ne_eq, ← String.toList_inj, String.toList_append]
    simp
  | _ => decide

theorem resolveStoreType_settled (t : SqlType) (maxLength : Option Nat) (fixedLength : Bool) :
    Settled (t.resolveStoreType maxLength fixedLength) := by
  -- a length is written in parentheses after the type's words
  have hlength : ∀ k : String, Glue k → ∀ n : Nat, Calm (k ++ toString n ++ ")") := by
    intro k hk n
    exact (hk.1.append_settled (inert_natToString n).settled).neutral.append_glue (by decide)
  unfold SqlType.resolveStoreType
  split
  · split
    · decide
    · split
      · exact (hlength _ (by decide) _).settled
      · exact (hlength _ (by decide) _).settled
  · exact (hlength _ (by decide) _).settled
  · split
    · exact (hlength _ (by decide) _).settled
    · exact (hlength _ (by decide) _).settled
  · exact (storeType_settled t).1

end PgMigrate
