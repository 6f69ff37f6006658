import PgMigrate.Migration.Command
/-
  The statement scanner as an automaton, and the texts it reads back whole.

  `splitStatementsFrom` reads a command's SQL with one character of look-ahead (a `;` ends
  a statement when a newline follows it) and takes a backslash together with the character
  it escapes.  `ScanState.step` reads the same text one character at a time and remembers
  only what the last character does to the next: a `;` outside quotes, an `E` or `e` before
  a quote, a single quote that just closed a string (a second one reopens it, escaping as
  before).  A run of `step` fails exactly where a statement would end.

  Main statements:
  * `splitStatementsFrom_append` (simulation): where `step` runs through a text without
    ending a statement, `splitStatementsFrom` reads the text into the current statement and
    stops in a state that `step` would describe the same way.
  * `Neutral`: a text read from a statement's start without ending it, outside quotes at its
    end.  `Neutral.append` joins two neutral texts when the second may follow the first
    (`Joins`); `Calm` texts let anything follow.
  * `statements_of_neutral`: a command made of neutral statements, each ended by `;` and a
    newline, splits back into exactly those statements.
-/
namespace PgMigrate

/-- What the statement scanner remembers between two characters. -/
inductive ScanState where
  /-- Outside quotes, after a character that changes nothing. -/
  | plain
  /-- Right after a `;` outside quotes: a newline here ends the statement. -/
  | semicolon
  /-- Right after `E` or `e` outside quotes: a quote here opens an escaping string. -/
  | prefixE
  /-- Right after the single quote that closed a string: a quote here reopens it. -/
  | closed (escapes : Bool)
  /-- Inside a string or a quoted identifier opened by `q`. -/
  | quoted (q : Char) (escapes : Bool)
  /-- Right after a backslash in an escaping string: the next character is taken as it is. -/
  | escaped (q : Char)
deriving DecidableEq, Repr

namespace ScanState

/-- The state after a character outside quotes that opens nothing. -/
def after (c : Char) : ScanState :=
  if c = ';' then .semicolon else if c = 'E' ∨ c = 'e' then .prefixE else .plain

/-- The state after the quote `c` closed a string or identifier. -/
def closing (c : Char) (escapes : Bool) : ScanState :=
  if c = '\'' then .closed escapes else after c

/-- Whether a single quote read in this state opens an escaping string. -/
def escapesNext : ScanState → Bool
  | .prefixE => true
  | .closed escapes => escapes
  | _ => false

/-- One character outside quotes; `none` where it ends the statement. -/
def stepOutside (s : ScanState) (c : Char) : Option ScanState :=
  if c = '\'' then some (.quoted '\'' s.escapesNext)
  else if c = '"' then some (.quoted '"' false)
  else if c = '\n' ∧ s = .semicolon then none
  else some (after c)

/-- One character; `none` where it ends the statement. -/
def step : ScanState → Char → Option ScanState
  | .quoted q escapes, c =>
    if escapes = true ∧ c = '\\' then some (.escaped q)
    else if c = q then some (closing c escapes)
    else some (.quoted q escapes)
  | .escaped q, _ => some (.quoted q true)
  | .plain, c => stepOutside .plain c
  | .semicolon, c => stepOutside .semicolon c
  | .prefixE, c => stepOutside .prefixE c
  | .closed escapes, c => stepOutside (.closed escapes) c

/-- Outside quotes. -/
def outside : ScanState → Bool
  | .quoted .. | .escaped _ => false
  | _ => true

/-- Reads a text; `none` if a statement ends in it. -/
def run (s : ScanState) (cs : List Char) : Option ScanState := cs.foldlM step s

/-- The state of `splitStatementsFrom` with previous character `prev` and quote state `st`. -/
def ofScanner (prev : Option Char) (st : QuoteState) : ScanState :=
  match st.quote, prev with
  | some q, _ => .quoted q st.escapes
  | none, some c => closing c st.escapes
  | none, none => .plain

/-! ## One step, and runs -/

theorem step_of_outside {s : ScanState} (hs : s.outside = true) (c : Char) :
    s.step c = s.stepOutside c := by
  cases s <;> simp_all [outside, step]

@[simp] theorem run_nil (s : ScanState) : s.run [] = some s := rfl

@[simp] theorem run_cons (s : ScanState) (c : Char) (cs : List Char) :
    s.run (c :: cs) = (s.step c).bind (·.run cs) := rfl

theorem run_append (s : ScanState) (xs ys : List Char) :
    s.run (xs ++ ys) = (s.run xs).bind (·.run ys) := by
  simp only [run, List.foldlM_append]
  rfl

@[simp] theorem outside_after (c : Char) : (after c).outside = true := by
  unfold after
  split <;> try split
  all_goals rfl

@[simp] theorem outside_closing (c : Char) (escapes : Bool) : (closing c escapes).outside = true := by
  unfold closing
  split
  · rfl
  · exact outside_after c

theorem after_ne_semicolon {c : Char} (hc : c ≠ ';') : after c ≠ .semicolon := by
  unfold after
  split <;> try split
  all_goals simp_all

theorem after_eq_semicolon {c : Char} (h : after c = .semicolon) : c = ';' :=
  Classical.byContradiction fun hc => after_ne_semicolon hc h

/-- Only a `;` leaves the scanner right after a `;`. -/
theorem step_eq_semicolon {s : ScanState} {c : Char} (h : s.step c = some .semicolon) : c = ';' := by
  have hstep : s.stepOutside c = some .semicolon → c = ';' := by
    intro h
    simp only [stepOutside] at h
    split at h
    · cases h
    · split at h
      · cases h
      · split at h
        · cases h
        · exact after_eq_semicolon (Option.some.inj h)
  cases s with
  | quoted q escapes =>
    simp only [step] at h
    split at h
    · cases h
    · split at h
      · unfold closing at h
        split at h
        · cases h
        · exact after_eq_semicolon (Option.some.inj h)
      · cases h
  | escaped q => cases h
  | plain | semicolon | prefixE | closed _ => exact hstep h

/-- A run ends right after a `;` only on that `;`, or on nothing from that state. -/
theorem getLast_of_run_semicolon {cs : List Char} :
    ∀ {s : ScanState}, s.run cs = some .semicolon →
      (cs = [] ∧ s = .semicolon) ∨ cs.getLast? = some ';' := by
  induction cs with
  | nil =>
    intro s h
    cases h
    exact .inl ⟨rfl, rfl⟩
  | cons c cs ih =>
    intro s h
    rw [run_cons] at h
    cases hc : s.step c with
    | none => rw [hc] at h; cases h
    | some u =>
      rw [hc, Option.bind_some] at h
      rcases ih h with ⟨rfl, rfl⟩ | hl
      · exact .inr (by simp [step_eq_semicolon hc])
      · refine .inr ?_
        cases cs with
        | nil => cases hl
        | cons d ds => simpa using hl

/-- The scanner's state read off `splitStatementsFrom`'s arguments is outside quotes exactly
    when no quote is open. -/
theorem quote_of_outside {prev : Option Char} {st : QuoteState}
    (h : (ofScanner prev st).outside = true) : st.quote = none := by
  unfold ofScanner at h
  split at h <;> simp_all [outside]

theorem ofScanner_of_quote {prev : Option Char} {st : QuoteState} {q : Char}
    (hq : st.quote = some q) : ofScanner prev st = .quoted q st.escapes := by
  simp [ofScanner, hq]

/-- Outside quotes, a quote opens an escaping string after `E` or `e`, and after the close of a
    string reopens it with that string's escaping: as `splitStatementsFrom` decides. -/
theorem escapesNext_ofScanner {prev : Option Char} {st : QuoteState} (hq : st.quote = none) :
    (ofScanner prev st).escapesNext =
      if prev == some '\'' then st.escapes else prev == some 'E' || prev == some 'e' := by
  cases prev with
  | none => simp [ofScanner, hq, escapesNext]
  | some c =>
    simp only [ofScanner, hq, closing, after]
    by_cases h1 : c = '\'' <;> by_cases h2 : c = ';' <;> by_cases h3 : c = 'E' ∨ c = 'e' <;>
      simp_all [escapesNext]

theorem outside_ofScanner {prev : Option Char} {st : QuoteState} (hq : st.quote = none) :
    (ofScanner prev st).outside = true := by
  cases prev with
  | none => simp [ofScanner, hq, outside]
  | some c => simp [ofScanner, hq]

/-! ## The simulation -/

/-- Where the automaton reads `cs` from the state of `splitStatementsFrom` without ending a
    statement, and stops outside quotes, `splitStatementsFrom` reads `cs` into the current
    statement.  The condition on `rest` keeps a final `;` from ending the statement with the
    newline that follows.  The induction is on the length of `cs`, since an escape is read
    two characters at a time. -/
theorem splitStatementsFrom_append {rest : List Char} {t : ScanState} (ht : t.outside = true)
    (hrest : t = .semicolon → rest.head? ≠ some '\n') :
    ∀ (cs : List Char) (prev : Option Char) (st : QuoteState) (current : List Char)
      (done : List String), (ofScanner prev st).run cs = some t →
    ∃ prev' st', ofScanner prev' st' = t ∧
      splitStatementsFrom (cs ++ rest) prev st current done =
        splitStatementsFrom rest prev' st' (cs.reverse ++ current) done
  | [], prev, st, current, done, hrun => ⟨prev, st, Option.some.inj hrun, rfl⟩
  | c :: cs, prev, st, current, done, hrun => by
    rw [List.cons_append, splitStatementsFrom.eq_def]
    simp only
    cases hq : st.quote with
    | some q =>
      rw [ofScanner_of_quote hq, run_cons, step] at hrun
      by_cases hesc : st.escapes = true ∧ c = '\\'
      · -- an escaped character is read together with its backslash
        obtain ⟨he, rfl⟩ := hesc
        simp only [he, and_self, if_true, Option.bind_some] at hrun
        cases cs with
        | nil => simp at hrun; subst hrun; simp [outside] at ht
        | cons d cs =>
          rw [run_cons] at hrun
          simp only [step, Option.bind_some] at hrun
          have hs : ofScanner (some d) st = .quoted q true := by rw [ofScanner_of_quote hq, he]
          rw [← hs] at hrun
          obtain ⟨prev', st', hst, heq⟩ := splitStatementsFrom_append ht hrest cs (some d) st
            (d :: '\\' :: current) done hrun
          refine ⟨prev', st', hst, ?_⟩
          simp [he, heq]
      · simp only [hesc, if_false] at hrun
        have hb : (st.escapes && c == '\\') = false := by
          simp only [Bool.and_eq_false_iff, beq_eq_false_iff_ne]
          by_cases he : st.escapes = true <;> simp_all
        simp only [hb]
        by_cases hc : c = q
        · -- the closing quote
          subst hc
          simp only [if_true, Option.bind_some] at hrun
          have hs : ofScanner (some c) { escapes := st.escapes } = closing c st.escapes := rfl
          rw [← hs] at hrun
          obtain ⟨prev', st', hst, heq⟩ := splitStatementsFrom_append ht hrest cs (some c)
            { escapes := st.escapes } (c :: current) done hrun
          exact ⟨prev', st', hst, by simp [heq]⟩
        · simp only [hc, if_false, Option.bind_some] at hrun
          rw [← @ofScanner_of_quote (some c) _ _ hq] at hrun
          obtain ⟨prev', st', hst, heq⟩ := splitStatementsFrom_append ht hrest cs (some c) st
            (c :: current) done hrun
          exact ⟨prev', st', hst, by simp [hc, heq]⟩
    | none =>
      have hout : (ofScanner prev st).outside = true := outside_ofScanner hq
      rw [run_cons, step_of_outside hout, stepOutside] at hrun
      by_cases h1 : c = '\''
      · -- a single quote opens a string, escaping as the previous character decides
        subst h1
        simp only [if_true, Option.bind_some, escapesNext_ofScanner hq] at hrun
        obtain ⟨prev', st', hst, heq⟩ := splitStatementsFrom_append ht hrest cs (some '\'')
          { quote := some '\'', escapes := if prev == some '\'' then st.escapes
              else prev == some 'E' || prev == some 'e' } ('\'' :: current) done hrun
        exact ⟨prev', st', hst, by simpa using heq⟩
      · simp only [h1, if_false] at hrun
        by_cases h2 : c = '"'
        · subst h2
          simp only [if_true, Option.bind_some] at hrun
          obtain ⟨prev', st', hst, heq⟩ := splitStatementsFrom_append ht hrest cs (some '"')
            { quote := some '"' } ('"' :: current) done hrun
          exact ⟨prev', st', hst, by simp [heq]⟩
        · simp only [h2, if_false] at hrun
          have hnl : ¬ (c = '\n' ∧ ofScanner prev st = .semicolon) := by
            rintro ⟨rfl, hs⟩
            simp [hs] at hrun
          simp only [hnl, if_false, Option.bind_some] at hrun
          -- a `;` never ends the statement here: the automaton would have failed
          have hsplit : ¬ (c = ';' ∧ (cs ++ rest).head? = some '\n') := by
            rintro ⟨rfl, hhead⟩
            cases cs with
            | nil =>
              simp [after] at hrun
              exact hrest hrun.symm (by simpa using hhead)
            | cons d cs =>
              simp only [List.cons_append, List.head?_cons, Option.some.injEq] at hhead
              subst hhead
              simp [after, step, stepOutside] at hrun
          have hs : ofScanner (some c) st = after c := by simp [ofScanner, hq, closing, h1]
          rw [← hs] at hrun
          obtain ⟨prev', st', hst, heq⟩ := splitStatementsFrom_append ht hrest cs (some c) st
            (c :: current) done hrun
          refine ⟨prev', st', hst, ?_⟩
          have hb : (c == ';' && (cs ++ rest).head? == some '\n') = false := by
            simp only [Bool.and_eq_false_iff, beq_eq_false_iff_ne]
            by_cases hc : c = ';' <;> simp_all
          have hc1 : (c == '\'') = false := by simpa using h1
          have hc2 : (c == '"') = false := by simpa using h2
          simp only [hc1, hc2, hb, Bool.false_eq_true, ↓reduceIte]
          rw [heq]
          simp
termination_by cs => cs.length

/-- In a state that lets the next character through, a text reads as from a statement's start. -/
theorem step_of_admits {t : ScanState} (ht : t.outside = true) {c : Char}
    (h1 : t = .semicolon → c ≠ '\n') (h2 : t.escapesNext = true → c ≠ '\'') :
    t.step c = ScanState.plain.step c := by
  rw [step_of_outside ht, step_of_outside rfl]
  unfold stepOutside
  by_cases hq : c = '\''
  · have he : t.escapesNext = false := by
      cases h : t.escapesNext
      · rfl
      · exact absurd hq (h2 h)
    simp only [hq, ↓reduceIte, he]
    rfl
  · by_cases hn : c = '\n'
    · have hs : t ≠ .semicolon := fun hs => h1 hs hn
      simp [hn, hs]
    · simp [hq, hn]

end ScanState

open ScanState

/-! ## Neutral texts -/

/-- A text read from a statement's start without ending the statement, outside quotes at its
    end: it closes every quote it opens and has no `;` followed by a newline outside quotes. -/
def Neutral (s : String) : Prop := ∃ t, run .plain s.toList = some t ∧ t.outside = true

instance (s : String) : Decidable (Neutral s) :=
  decidable_of_iff ((run .plain s.toList).any outside = true) (by
    unfold Neutral
    cases run .plain s.toList <;> simp)

example : Neutral "E'it\\'s' || 'it''s' || \"a;\n\"" := by decide
example : ¬ Neutral "'it's'" := by decide
example : ¬ Neutral "a;\nb" := by decide

/-- A text after which anything may follow: read from a statement's start it leaves the scanner
    outside quotes and not right after `;`, `E`, `e` or the close of an escaping string. -/
def Calm (s : String) : Prop :=
  run .plain s.toList = some .plain ∨ run .plain s.toList = some (.closed false)

/-- A text after which anything but a quote may follow: read from a statement's start it leaves
    the scanner outside quotes and not right after a `;`. -/
def Settled (s : String) : Prop :=
  ∃ t, run .plain s.toList = some t ∧ t.outside = true ∧ t ≠ .semicolon

/-- A text that starts with neither a quote nor a newline: it may follow any neutral text. -/
def QuietStart (s : String) : Prop := s.toList.head? ≠ some '\'' ∧ s.toList.head? ≠ some '\n'

/-- The text `cs` may come in the state `t`: no newline right after a `;`, and no quote right
    after `E`, `e` or the close of an escaping string. -/
def Admits (t : ScanState) (cs : List Char) : Prop :=
  (t = .semicolon → cs.head? ≠ some '\n') ∧ (t.escapesNext = true → cs.head? ≠ some '\'')

/-- `b` may follow `a`. -/
def Joins (a b : String) : Prop := ∀ t, run .plain a.toList = some t → Admits t b.toList

/-- A fixed text that may follow any neutral text and lets anything follow it. -/
def Glue (k : String) : Prop := Calm k ∧ QuietStart k ∧ k ≠ ""

instance (s : String) : Decidable (Calm s) := inferInstanceAs (Decidable (_ ∨ _))

instance (s : String) : Decidable (QuietStart s) := inferInstanceAs (Decidable (_ ∧ _))

instance (s : String) : Decidable (Glue s) := inferInstanceAs (Decidable (_ ∧ _ ∧ _))

instance (s : String) : Decidable (Settled s) :=
  decidable_of_iff ((run .plain s.toList).any fun t => t.outside && t != .semicolon) (by
    unfold Settled
    cases run .plain s.toList <;> simp)

theorem Calm.settled {s : String} (h : Calm s) : Settled s := by
  rcases h with h | h
  · exact ⟨.plain, h, rfl, by simp⟩
  · exact ⟨.closed false, h, rfl, by simp⟩

theorem Settled.neutral {s : String} (h : Settled s) : Neutral s := by
  obtain ⟨t, hr, ho, -⟩ := h
  exact ⟨t, hr, ho⟩

theorem Calm.neutral {s : String} (h : Calm s) : Neutral s := h.settled.neutral

theorem calm_empty : Calm "" := .inl rfl

/-- A neutral text that does not end in `;` is settled. -/
theorem Settled.of_neutral {s : String} (h : Neutral s) (hs : s.endsWith ";" = false) : Settled s := by
  obtain ⟨t, hr, ho⟩ := h
  refine ⟨t, hr, ho, ?_⟩
  rintro rfl
  -- a statement's start is not right after a `;`, so the last character is one
  have hlast : s.toList.getLast? = some ';' := by
    rcases getLast_of_run_semicolon hr with ⟨-, h⟩ | h
    · cases h
    · exact h
  rw [String.endsWith_eq_endsWith_toSlice, String.Slice.endsWith_string_eq_false_iff] at hs
  exact hs (by simpa using List.singleton_suffix_iff_getLast?_eq_some.2 hlast)

theorem Joins.of_calm {a : String} (h : Calm a) (b : String) : Joins a b := by
  intro t ht
  rcases h with h | h <;> rw [h] at ht <;> cases ht <;> simp [Admits, escapesNext]

theorem Joins.of_quietStart (a : String) {b : String} (h : QuietStart b) : Joins a b :=
  fun _ _ => ⟨fun _ => h.2, fun _ => h.1⟩

theorem Joins.of_settled {a b : String} (h : Settled a) (hb : b.toList.head? ≠ some '\'') :
    Joins a b := by
  obtain ⟨t, hr, -, hs⟩ := h
  intro u hu
  rw [hr] at hu
  cases hu
  exact ⟨fun h => absurd h hs, fun _ => hb⟩

/-- After a text, a nonempty text that may follow it leaves the scanner as it would alone. -/
theorem run_append_of_joins {a b : String} {t : ScanState} (ha : run .plain a.toList = some t)
    (ht : t.outside = true) (hj : Admits t b.toList) (hb : b ≠ "") :
    run .plain (a ++ b).toList = run .plain b.toList := by
  rw [String.toList_append, run_append, ha, Option.bind_some]
  cases hbl : b.toList with
  | nil => exact absurd (String.toList_eq_nil_iff.1 hbl) hb
  | cons c cs =>
    rw [hbl] at hj
    rw [run_cons, run_cons, step_of_admits ht (fun h => by simpa using hj.1 h)
      (fun h => by simpa using hj.2 h)]

theorem Neutral.append {a b : String} (ha : Neutral a) (hb : Neutral b) (hj : Joins a b) :
    Neutral (a ++ b) := by
  obtain ⟨t, hta, hto⟩ := ha
  by_cases he : b = ""
  · subst he
    rw [String.append_empty]
    exact ⟨t, hta, hto⟩
  · rw [Neutral, run_append_of_joins hta hto (hj t hta) he]
    exact hb

theorem Neutral.append_calm {a b : String} (ha : Neutral a) (hb : Calm b) (hj : Joins a b)
    (he : b ≠ "") : Calm (a ++ b) := by
  obtain ⟨t, hta, hto⟩ := ha
  rw [Calm, run_append_of_joins hta hto (hj t hta) he]
  exact hb

theorem Neutral.append_settled {a b : String} (ha : Neutral a) (hb : Settled b) (hj : Joins a b)
    (he : b ≠ "") : Settled (a ++ b) := by
  obtain ⟨t, hta, hto⟩ := ha
  rw [Settled, run_append_of_joins hta hto (hj t hta) he]
  exact hb

theorem Calm.append {a b : String} (ha : Calm a) (hb : Calm b) : Calm (a ++ b) := by
  by_cases he : b = ""
  · subst he
    rwa [String.append_empty]
  · exact ha.neutral.append_calm hb (.of_calm ha b) he

theorem Neutral.append_glue {a k : String} (ha : Neutral a) (hk : Glue k) : Calm (a ++ k) :=
  ha.append_calm hk.1 (.of_quietStart a hk.2.1) hk.2.2

theorem Calm.append_neutral {a b : String} (ha : Calm a) (hb : Neutral b) : Neutral (a ++ b) :=
  ha.neutral.append hb (.of_calm ha b)

theorem Neutral.append_quiet {a b : String} (ha : Neutral a) (hb : Neutral b) (hq : QuietStart b) :
    Neutral (a ++ b) :=
  ha.append hb (.of_quietStart a hq)

theorem QuietStart.append {a : String} (ha : QuietStart a) (he : a ≠ "") (b : String) :
    QuietStart (a ++ b) := by
  cases hl : a.toList with
  | nil => exact absurd (String.toList_eq_nil_iff.1 hl) he
  | cons c cs =>
    unfold QuietStart at ha ⊢
    simpa [String.toList_append, hl] using ha

theorem Settled.append {a b : String} (ha : Settled a) (hb : Settled b) (hj : Joins a b) :
    Settled (a ++ b) := by
  by_cases he : b = ""
  · subst he
    rwa [String.append_empty]
  · exact ha.neutral.append_settled hb hj he

theorem Calm.append_settled {a b : String} (ha : Calm a) (hb : Settled b) : Settled (a ++ b) :=
  ha.settled.append hb (.of_calm ha b)

/-- Items joined by a calm separator that starts quietly: neutral items give a neutral text,
    settled items a settled one. -/
theorem Neutral.intercalate {sep : String} (hc : Calm sep) (hq : QuietStart sep) (he : sep ≠ "")
    {xs : List String} (h : ∀ x ∈ xs, Neutral x) : Neutral (sep.intercalate xs) := by
  induction xs with
  | nil => exact calm_empty.neutral
  | cons x xs ih =>
    cases xs with
    | nil => simpa using h x (by simp)
    | cons y ys =>
      rw [String.intercalate_cons_cons]
      have hx : Calm (x ++ sep) := (h x (by simp)).append_calm hc (.of_quietStart x hq) he
      exact hx.neutral.append (ih fun z hz => h z (by simp_all)) (.of_calm hx _)

theorem Settled.intercalate {sep : String} (hc : Calm sep) (hq : QuietStart sep) (he : sep ≠ "")
    {xs : List String} (h : ∀ x ∈ xs, Settled x) : Settled (sep.intercalate xs) := by
  induction xs with
  | nil => exact calm_empty.settled
  | cons x xs ih =>
    cases xs with
    | nil => simpa using h x (by simp)
    | cons y ys =>
      rw [String.intercalate_cons_cons]
      have hx : Calm (x ++ sep) := (h x (by simp)).neutral.append_calm hc (.of_quietStart x hq) he
      exact hx.settled.append (ih fun z hz => h z (by simp_all)) (.of_calm hx _)

/-! ## Commands of neutral statements -/

/-- The run lemma: from a statement's start, `splitStatementsFrom` reads neutral statements, each
    ended by `;` and a newline, back one by one, and a blank piece after the last. -/
theorem splitStatementsFrom_neutral (stmts : List String) (h : ∀ s ∈ stmts, Neutral s) :
    ∀ (prev : Option Char) (st : QuoteState) (done : List String), ofScanner prev st = .plain →
      splitStatementsFrom (String.join (stmts.map (· ++ ";\n"))).toList prev st [] done =
        done.reverse ++ stmts ++ [""] := by
  induction stmts with
  | nil =>
    intro prev st done _
    simp [splitStatementsFrom]
  | cons s ss ih =>
    intro prev st done hps
    obtain ⟨t, hrun, hout⟩ := h s (by simp)
    have hsplit : (String.join ((s :: ss).map (· ++ ";\n"))).toList =
        s.toList ++ (';' :: '\n' :: (String.join (ss.map (· ++ ";\n"))).toList) := by
      simp [String.toList_append]
    rw [hsplit]
    obtain ⟨prev', st', hst, heq⟩ := @splitStatementsFrom_append (';' :: '\n' :: _) _ hout
      (by simp) s.toList prev st [] done (by rwa [hps])
    rw [heq]
    -- the terminator: a `;` outside quotes with a newline after it ends the statement
    have hq : st'.quote = none := quote_of_outside (by rw [hst]; exact hout)
    rw [splitStatementsFrom.eq_def]
    simp only [hq, List.head?_cons, List.tail_cons]
    simp only [List.append_nil, List.reverse_reverse, String.ofList_toList]
    rw [ih (fun x hx => h x (by simp [hx])) (some '\n') st' (s :: done) (by simp [ofScanner, hq, closing, after])]
    simp

/-- A command made of neutral statements, none of them blank, each ended by `;` and a newline:
    its statements are exactly these, trimmed. -/
theorem statements_of_neutral {c : MigrationCommand} {stmts : List String}
    (hc : c.sql = String.join (stmts.map (· ++ ";\n"))) (h : ∀ s ∈ stmts, Neutral s ∧ trimWhite s ≠ "") :
    c.statements = stmts.map trimWhite := by
  unfold MigrationCommand.statements splitStatements
  rw [hc, splitStatementsFrom_neutral stmts (fun s hs => (h s hs).1) none {} [] rfl]
  have hblank : trimWhite "" = "" := by decide
  simp only [List.reverse_nil, List.nil_append, List.map_append, List.map_cons, List.map_nil, hblank,
    List.filter_append]
  rw [List.filter_eq_self.2]
  · simp
  · intro x hx
    obtain ⟨s, hs, rfl⟩ := List.mem_map.1 hx
    simpa using (h s hs).2

end PgMigrate
