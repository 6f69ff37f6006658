import PgMigrate.Proofs.NeutralText
import PgMigrate.Proofs.Batching
/-
  Literals and clauses, as the statement scanner reads them.

  Every literal the library writes, at every type and nesting of arrays, is settled for the
  statement scanner: it closes its quotes and does not end right after a `;`.  Quoted
  literals double their quotes; a `bytea` literal is an escaping string whose body, `\\x` and
  upper-case hex digits, holds no quote and no backslash it does not escape; numbers are
  digits.  Clauses put these together with delimited names and with SQL given by the model,
  which is neutral by assumption and always stands between a calm opening and a closing
  that starts quietly (`(`…`)`, ` DEFAULT (`…`)`).

  Main statements: `sqlIn_settled` (by the mutual recursion of `sqlIn` and `sqlItems`),
  `check_calm`, `default_settled`, `foreignKey_settled`, `formatAssignments_neutral`.
-/
namespace PgMigrate

open ScanState

/-! ## Quoted bodies -/

/-- Inside a string or identifier, text without its quote and without backslashes leaves the
    scanner inside. -/
theorem run_quoted_body {q : Char} {escapes : Bool} {cs : List Char}
    (h : ∀ c ∈ cs, c ≠ q ∧ c ≠ '\\') : (ScanState.quoted q escapes).run cs = some (.quoted q escapes) := by
  induction cs with
  | nil => rfl
  | cons c cs ih =>
    obtain ⟨hq, hb⟩ := h c (by simp)
    have hstep : (ScanState.quoted q escapes).step c = some (.quoted q escapes) := by
      simp [step, hq, hb]
    rw [run_cons, hstep, Option.bind_some]
    exact ih fun d hd => h d (by simp [hd])

theorem toUpper_digitChar (d : Nat) :
    (Nat.digitChar d).toUpper ≠ '\'' ∧ (Nat.digitChar d).toUpper ≠ '\\' := by
  match d with
  | 0 | 1 | 2 | 3 | 4 | 5 | 6 | 7 | 8 | 9 | 10 | 11 | 12 | 13 | 14 | 15 => decide
  | _ + 16 => simp [Nat.digitChar]

/-- Upper-case hex digits hold no quote and no backslash. -/
theorem hexUpperBytes_plain (bs : List Nat) :
    ∀ c ∈ (Literal.hexUpperBytes bs).toList, c ≠ '\'' ∧ c ≠ '\\' := by
  have hdigits : ∀ n, ∀ c ∈ (hexUpper n).toList, c ≠ '\'' ∧ c ≠ '\\' := by
    intro n c hc
    simp only [hexUpper, String.toList_ofList, List.mem_map] at hc
    obtain ⟨d, hd, rfl⟩ := hc
    obtain ⟨k, rfl⟩ := mem_toDigits hd
    exact toUpper_digitChar k
  intro c hc
  simp only [Literal.hexUpperBytes, String.toList_join, List.mem_flatMap, List.mem_map] at hc
  obtain ⟨_, ⟨n, -, rfl⟩, hc⟩ := hc
  unfold hexByteUpper at hc
  simp only at hc
  split at hc
  · rw [String.toList_append] at hc
    rcases List.mem_append.1 hc with hc | hc
    · have hzero : c = '0' := by simpa using hc
      subst hzero
      decide
    · exact hdigits n c hc
  · exact hdigits n c hc

/-- A `bytea` literal is an escaping string: `E'`, an escaped backslash, `x` and hex digits. -/
theorem bytea_settled (bs : List Nat) : Settled ("E'\\\\x" ++ Literal.hexUpperBytes bs ++ "'") := by
  refine ⟨.closed true, ?_, rfl, by simp⟩
  have hopen : ScanState.plain.run "E'\\\\x".toList = some (.quoted '\'' true) := by decide
  rw [String.toList_append, String.toList_append, run_append, run_append, hopen, Option.bind_some,
    run_quoted_body (hexUpperBytes_plain bs), Option.bind_some]
  decide

/-- A bit string literal: `B'` and the digits `0` and `1`. -/
theorem bits_calm (bs : List Bool) :
    Calm ("B'" ++ String.ofList (bs.map fun b => if b then '1' else '0') ++ "'") := by
  refine .inr ?_
  have hopen : ScanState.plain.run "B'".toList = some (.quoted '\'' false) := by decide
  have hbody : ∀ c ∈ (String.ofList (bs.map fun b => if b then '1' else '0')).toList,
      c ≠ '\'' ∧ c ≠ '\\' := by
    intro c hc
    simp only [String.toList_ofList, List.mem_map] at hc
    obtain ⟨b, -, rfl⟩ := hc
    cases b <;> decide
  rw [String.toList_append, String.toList_append, run_append, run_append, hopen, Option.bind_some,
    run_quoted_body hbody, Option.bind_some]
  decide

/-! ## Literals -/

/-- A quoted literal after its keyword. -/
theorem keyworded_settled (form : Literal.SqlForm) {keyword literal : String}
    (hk : Calm (keyword ++ " ")) (hl : Settled literal) :
    Settled (Literal.keyworded form keyword literal) := by
  cases form with
  | typed => exact hk.append_settled hl
  | bare => exact hl

/-- A string constant cast to a type. -/
theorem castTo_settled (form : Literal.SqlForm) {literal : String} (hl : Calm literal)
    (t : SqlType) : Settled (Literal.castTo form literal t) := by
  cases form with
  | typed =>
    have hcast : Calm (literal ++ "::") := hl.append (by decide)
    exact hcast.append_settled (storeType_settled t).1
  | bare => exact hl.settled

theorem typeKeyword_calm {t : SqlType} {keyword : String} (h : Literal.typeKeyword t = some keyword) :
    Calm (keyword ++ " ") := by
  cases t <;> simp [Literal.typeKeyword] at h <;> subst h <;> decide

/-- The text of a number holds digits, a sign, a point: no quote and no `;`. -/
theorem scalarText_number_inert {v : Value} {t : SqlType} {s : String}
    (hv : Literal.isNumber v = true) (h : Literal.scalarText v t = .ok s) : Inert s := by
  have hsql : Inert FloatStyle.sqlPlain.nan ∧ Inert FloatStyle.sqlPlain.infinity := by decide
  cases v <;> simp [Literal.isNumber] at hv <;> simp only [Literal.scalarText] at h <;>
    split at h <;> cases h
  · exact inert_intToString _
  · exact inert_intToString _
  · exact inert_intToString _
  · exact inert_render _ hsql.1 hsql.2 _ _
  · exact inert_render _ hsql.1 hsql.2 _ _

/-- Every literal the library writes, at any type and in either form, is settled.  The
    induction follows `sqlIn` and `sqlItems` together: an array's elements are bare literals,
    joined by commas. -/
theorem sqlIn_settled (form : Literal.SqlForm) (v : Value) (t : SqlType) :
    ∀ s, Literal.sqlIn form v t = .ok s → Settled s := by
  refine Literal.sqlIn.induct (fun form v t => ∀ s, Literal.sqlIn form v t = .ok s → Settled s)
    (fun element items => ∀ ss, Literal.sqlItems element items = .ok ss → ∀ s ∈ ss, Settled s)
    ?case1 ?case2 ?case3 ?case4 ?case5 ?case6 ?case7 ?case8 ?case9 ?case10 ?case11 ?case12 ?case13
    ?case14 ?case15 ?case16 ?case17 ?case18 form v t
  case case1 => intro _ _ s h; cases h; decide
  case case2 => intro _ b s h; cases h; cases b <;> decide
  case case3 => intro _ x s h; cases h; exact (sqlQuote_calm x).settled
  case case4 => intro _ x s h; cases h; exact (sqlQuote_calm x).settled
  case case5 => intro _ x s h; cases h; exact (sqlQuote_calm x).settled
  case case6 =>
    intro form label schema name s h
    cases h
    exact castTo_settled form (sqlQuote_calm label) _
  case case7 =>
    intro form bs s h
    cases h
    exact keyworded_settled form (by decide) (bytea_settled bs)
  case case8 =>
    intro form bs s h
    cases h
    exact keyworded_settled form (by decide) (bits_calm bs).settled
  case case9 =>
    intro form bs s h
    cases h
    exact keyworded_settled form (by decide) (bits_calm bs).settled
  case case10 =>
    intro form pairs s h
    cases h
    exact keyworded_settled form (by decide) (sqlQuote_calm _).settled
  case case11 =>
    intro form r schema name subtype s h
    obtain ⟨text, -, h⟩ := Except.bind_eq_ok.1 h
    cases h
    exact castTo_settled form (sqlQuote_calm text) _
  case case12 =>
    intro form items element ih s h
    obtain ⟨ss, hss, h⟩ := Except.bind_eq_ok.1 h
    cases h
    -- the elements, joined by commas, between `ARRAY[` and `]`
    have hel : Settled ("ARRAY[" ++ ",".intercalate ss) :=
      Calm.append_settled (by decide) (Settled.intercalate (by decide) (by decide) (by decide) (ih ss hss))
    cases form with
    | typed =>
      have hcast : Calm ("ARRAY[" ++ ",".intercalate ss ++ "]::") := hel.neutral.append_glue (by decide)
      exact hcast.append_settled (storeType_settled _).1
    | bare => exact (hel.neutral.append_glue (by decide)).settled
  -- the remaining pairs: numbers, keyword-typed strings, or no literal at all
  case case13 =>
    intro form v t h1 h2 h3 h4 h5 h6 h7 h8 h9 h10 h11 h12 hnum hfin s h
    rw [Literal.sqlIn.eq_13 form v t h1 h2 h3 h4 h5 h6 h7 h8 h9 h10 h11 h12] at h
    simp only [hnum, hfin, if_true] at h
    obtain ⟨text, -, h⟩ := Except.bind_eq_ok.1 h
    cases h
    exact (sqlQuote_calm text).settled
  case case14 =>
    intro form v t h1 h2 h3 h4 h5 h6 h7 h8 h9 h10 h11 h12 hnum hfin s h
    rw [Literal.sqlIn.eq_13 form v t h1 h2 h3 h4 h5 h6 h7 h8 h9 h10 h11 h12] at h
    simp only [hnum, hfin, if_true, if_false, Bool.false_eq_true] at h
    simp only [Bool.and_eq_true] at hnum
    exact (scalarText_number_inert hnum.2 h).settled
  case case15 =>
    intro form v t h1 h2 h3 h4 h5 h6 h7 h8 h9 h10 h11 h12 hnum keyword hk s h
    rw [Literal.sqlIn.eq_13 form v t h1 h2 h3 h4 h5 h6 h7 h8 h9 h10 h11 h12] at h
    simp only [hnum, hk, if_false, Bool.false_eq_true] at h
    obtain ⟨text, -, h⟩ := Except.bind_eq_ok.1 h
    cases h
    exact keyworded_settled form (typeKeyword_calm hk) (sqlQuote_calm text).settled
  case case16 =>
    intro form v t h1 h2 h3 h4 h5 h6 h7 h8 h9 h10 h11 h12 hnum hk s h
    rw [Literal.sqlIn.eq_13 form v t h1 h2 h3 h4 h5 h6 h7 h8 h9 h10 h11 h12] at h
    simp only [hnum, hk, if_false, Bool.false_eq_true] at h
    cases h
  case case17 => intro element ss h s hs; cases h; simp at hs
  case case18 =>
    intro element v vs ihv ihvs ss h s hs
    obtain ⟨x, hx, h⟩ := Except.bind_eq_ok.1 h
    obtain ⟨xs, hxs, h⟩ := Except.bind_eq_ok.1 h
    cases h
    rcases List.mem_cons.1 hs with rfl | hs
    · exact ihv s hx
    · exact ihvs xs hxs s hs

/-! ## Clauses -/

/-- A calm opening, a neutral text and a closing parenthesis. -/
theorem Calm.wrap {a x : String} (ha : Calm a) (hx : Neutral x) : Calm (a ++ x ++ ")") :=
  (ha.append_neutral hx).append_glue (by decide)

theorem Settled.append_quiet {a b : String} (ha : Settled a) (hb : Settled b) (hq : QuietStart b) :
    Settled (a ++ b) :=
  ha.append hb (.of_quietStart a hq)

theorem columnList_settled (cs : List String) : Settled (Clause.columnList cs) := by
  refine Settled.intercalate (by decide) (by decide) (by decide) fun x hx => ?_
  obtain ⟨c, -, rfl⟩ := List.mem_map.1 hx
  exact delimit_settled c

theorem constraintName_calm (name : Option String) : Calm (Clause.constraintName name) := by
  cases name with
  | none => exact calm_empty
  | some n =>
    exact (Calm.append_settled (by decide) (delimit_settled n)).neutral.append_glue (by decide)

theorem primaryKey_calm (k : PrimaryKey) : Calm (Clause.primaryKey k) :=
  ((constraintName_calm k.name).append (by decide)).wrap (columnList_settled k.columns).neutral

theorem unique_calm (k : UniqueConstraint) : Calm (Clause.unique k) :=
  ((constraintName_calm k.name).append (by decide)).wrap (columnList_settled k.columns).neutral

/-- A check constraint's SQL stands in parentheses. -/
theorem check_calm {k : CheckConstraint} (h : Neutral k.sql) : Calm (Clause.check k) :=
  ((constraintName_calm k.name).append (by decide)).wrap h

theorem foreignKey_settled (k : ForeignKey) : Settled (Clause.foreignKey k) := by
  -- an action's words may end in `E` (`CASCADE`): settled, not calm
  have haction : ∀ (label : String), Calm label → QuietStart label → label ≠ "" →
      ∀ a : ReferentialAction, Settled (label ++ a.sql) ∧ QuietStart (label ++ a.sql) := by
    intro label hl hq he a
    exact ⟨hl.append_settled (by cases a <;> decide), hq.append he _⟩
  have hopt : ∀ (c : Bool) (x : String), Settled x → QuietStart x →
      Settled (if c then "" else x) ∧ QuietStart (if c then "" else x) := by
    intro c x hx hq
    cases c
    · exact ⟨hx, hq⟩
    · exact ⟨calm_empty.settled, by simp [QuietStart]⟩
  have hhead : Calm (Clause.constraintName k.name ++ "FOREIGN KEY (" ++ Clause.columnList k.columns ++
      ") REFERENCES ") :=
    (((constraintName_calm k.name).append (by decide)).append_settled
      (columnList_settled k.columns)).neutral.append_glue (by decide)
  have hprincipal := hopt k.principalColumns.isEmpty (" (" ++ Clause.columnList k.principalColumns ++ ")")
    (Calm.wrap (by decide) (columnList_settled _).neutral).settled (by simp [QuietStart, String.toList_append])
  have hupdate := hopt (k.onUpdate == .noAction) _ (haction " ON UPDATE " (by decide) (by decide) (by decide)
    k.onUpdate).1 (haction " ON UPDATE " (by decide) (by decide) (by decide) k.onUpdate).2
  have hdelete := hopt (k.onDelete == .noAction) _ (haction " ON DELETE " (by decide) (by decide) (by decide)
    k.onDelete).1 (haction " ON DELETE " (by decide) (by decide) (by decide) k.onDelete).2
  unfold Clause.foreignKey
  exact (((hhead.append_settled (qualify_settled _ _)).append_quiet hprincipal.1 hprincipal.2).append_quiet
    hupdate.1 hupdate.2).append_quiet hdelete.1 hdelete.2

/-- A default is SQL in parentheses or a literal, after ` DEFAULT `. -/
theorem default_settled {c : Column} {d : String} (hsql : ∀ sql ∈ c.defaultSql, Neutral sql)
    (h : Clause.default c = .ok d) : Settled d ∧ QuietStart d := by
  unfold Clause.default at h
  cases hs : c.defaultSql with
  | some sql =>
    rw [hs] at h
    cases h
    exact ⟨(Calm.wrap (by decide) (hsql sql (by simp [hs]))).settled,
      by simp [QuietStart, String.toList_append]⟩
  | none =>
    cases hv : c.defaultValue with
    | none =>
      rw [hs, hv] at h
      cases h
      exact ⟨calm_empty.settled, by decide⟩
    | some v =>
      rw [hs, hv] at h
      simp only at h
      split at h
      · rename_i lit hlit
        cases h
        exact ⟨Calm.append_settled (by decide) (sqlIn_settled _ _ _ lit hlit),
          by simp [QuietStart, String.toList_append]⟩
      · cases h

theorem commentLiteral_calm (comment : Option String) : Calm (Clause.commentLiteral comment) := by
  cases comment with
  | none => decide
  | some s => exact sqlQuote_calm s

theorem sequenceOptions_inert (q : Sequence) : Inert (Clause.sequenceOptions q) := by
  unfold Clause.sequenceOptions
  refine inert_append.2 ⟨inert_append.2 ⟨inert_append.2 ⟨inert_append.2 ⟨by decide,
    inert_intToString _⟩, ?_⟩, ?_⟩, ?_⟩
  -- each bound: its words and a number, or the words for none
  · split
    · exact inert_append.2 ⟨by decide, inert_intToString _⟩
    · decide
  · split
    · exact inert_append.2 ⟨by decide, inert_intToString _⟩
    · decide
  · cases q.cycle <;> decide

theorem delimitOperator_settled (op : String) :
    Settled (Clause.delimitOperator op) ∧ QuietStart (Clause.delimitOperator op) := by
  unfold Clause.delimitOperator
  split
  · exact ⟨qualify_settled _ _, qualify_quietStart _ _⟩
  · exact ⟨delimit_settled _, delimit_quietStart _⟩

/-! ## Storage parameters -/

theorem mem_assignParameter {key value : String} {acc : List (String × String)}
    {kv : String × String} (h : kv ∈ assignParameter key value acc) : kv = (key, value) ∨ kv ∈ acc := by
  induction acc with
  | nil => simpa [assignParameter] using h
  | cons p acc ih =>
    obtain ⟨k, v⟩ := p
    unfold assignParameter at h
    split at h
    · rename_i hk
      rcases List.mem_cons.1 h with rfl | h
      · exact .inl (by simp_all)
      · exact .inr (List.mem_cons_of_mem _ h)
    · rcases List.mem_cons.1 h with rfl | h
      · exact .inr (by simp)
      · rcases ih h with h | h
        · exact .inl h
        · exact .inr (List.mem_cons_of_mem _ h)

/-- Every rendered pair is the name and the rendered value of a declared parameter. -/
theorem mem_storageParameters {o : TableOptions} {kv : String × String}
    (h : kv ∈ storageParameters o) : ∃ p ∈ o.storageParameters, kv = (p.name, p.value.render) := by
  unfold storageParameters at h
  -- the invariant of the fold: every pair so far comes from a parameter
  have hfold : ∀ (ps : List StorageParameter) (acc : List (String × String)),
      (∀ kv ∈ acc, ∃ p ∈ o.storageParameters, kv = (p.name, p.value.render)) →
      (∀ p ∈ ps, p ∈ o.storageParameters) →
      ∀ kv ∈ ps.foldl (fun acc p => assignParameter p.name p.value.render acc) acc,
        ∃ p ∈ o.storageParameters, kv = (p.name, p.value.render) := by
    intro ps
    induction ps with
    | nil => exact fun acc hacc _ => hacc
    | cons p ps ih =>
      intro acc hacc hps
      refine ih _ ?_ (fun q hq => hps q (List.mem_cons_of_mem _ hq))
      intro kv hkv
      rcases mem_assignParameter hkv with rfl | hkv
      · exact ⟨p, hps p (by simp), rfl⟩
      · exact hacc kv hkv
  exact hfold _ [] (by simp) (fun _ hp => hp) kv h

/-- `key=value` pairs joined by commas, each key and value neutral. -/
theorem formatAssignments_neutral {ps : List (String × String)}
    (h : ∀ kv ∈ ps, Neutral kv.1 ∧ Neutral kv.2) : Neutral (formatAssignments ps) := by
  refine Neutral.intercalate (by decide) (by decide) (by decide) fun x hx => ?_
  obtain ⟨⟨k, v⟩, hkv, rfl⟩ := List.mem_map.1 hx
  obtain ⟨hk, hv⟩ := h _ hkv
  exact (hk.append_glue (by decide)).append_neutral hv

end PgMigrate
