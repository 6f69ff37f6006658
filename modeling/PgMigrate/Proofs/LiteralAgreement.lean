import PgMigrate.Literal.Code
import PgMigrate.Literal.Sql
/-
  The SQL and code literal renderers accept the same pairs, and fail alike.

  `Literal.sqlIn` writes most pairs of value and type by a rule of their own (`OwnForm`) and
  falls back on the scalar text for numbers and for the types written after a keyword;
  `Literal.codeOf` has one rule per pair.  Both take range bounds through the scalar text of
  the subtype (the code side first refuses a bound that is not a scalar, as the scalar text
  does), and both render an array's items in order, stopping at the first that fails.

  Comparing the two through their `outcome`, the result with the text forgotten:
  * `codeOf_outcome_of_scalar`: for a scalar value the code renderer succeeds or fails
    exactly as the scalar text does;
  * `scalarText_unmapped`: a pair with no rule of its own, no number for a numeric type and no
    keyword has no scalar text;
  * `sqlIn_outcome`: in either form, the SQL renderer's outcome is the code renderer's;
  * `literal_renderers_accept_alike`: one renders a pair exactly when the other does, and when
    both fail they give the same error.
-/
namespace PgMigrate

namespace Literal

/-! ## Outcomes -/

/-- What a rendering did with its text forgotten: success, or the error it failed with. -/
def outcome {α : Type} (x : Except LiteralError α) : Except LiteralError Unit :=
  (fun _ => ()) <$> x

@[simp] theorem outcome_ok {α : Type} (a : α) :
    outcome (.ok a : Except LiteralError α) = .ok () := rfl

@[simp] theorem outcome_error {α : Type} (e : LiteralError) :
    outcome (.error e : Except LiteralError α) = .error e := rfl

/-- Two computations run in sequence with another whose outcome does not depend on the value
    passed: their outcomes agree when the first steps' do and the second steps' do. -/
theorem outcome_bind_congr {α α' β β' : Type} {x : Except LiteralError α}
    {x' : Except LiteralError α'} {f : α → Except LiteralError β}
    {g : α' → Except LiteralError β'} (hx : outcome x = outcome x')
    (hfg : ∀ a a', outcome (f a) = outcome (g a')) : outcome (x >>= f) = outcome (x' >>= g) := by
  cases x with
  | error e =>
    cases x' with
    | error e' => exact hx
    | ok a' => cases hx
  | ok a =>
    cases x' with
    | error e' => cases hx
    | ok a' => exact hfg a a'

theorem outcome_bind_pure {α β : Type} (x : Except LiteralError α) (f : α → β) :
    outcome (x >>= fun a => pure (f a)) = outcome x := by
  cases x <;> rfl

/-- Agreeing outcomes: one succeeds exactly when the other does, and they fail alike. -/
theorem agree_of_outcome_eq {α β : Type} {x : Except LiteralError α} {y : Except LiteralError β}
    (h : outcome x = outcome y) :
    ((∃ a, x = .ok a) ↔ ∃ b, y = .ok b) ∧ ∀ e, x = .error e ↔ y = .error e := by
  cases x <;> cases y <;> simp_all

/-! ## Pairs written by a rule of their own -/

/-- The pairs the SQL renderer writes by a rule of their own, before its fallback on numbers
    and on the types written after a keyword. -/
inductive OwnForm : Value → SqlType → Prop
  | null (t : SqlType) : OwnForm .null t
  | bool (b : Bool) : OwnForm (.bool b) .boolean
  | text (s : String) : OwnForm (.text s) .text
  | json (s : String) : OwnForm (.text s) .json
  | jsonb (s : String) : OwnForm (.text s) .jsonb
  | enum (label : String) (schema : Option String) (name : String) :
      OwnForm (.text label) (.enum schema name)
  | bytes (bs : List Nat) : OwnForm (.bytes bs) .bytea
  | bit (bs : List Bool) : OwnForm (.bits bs) .bit
  | varBit (bs : List Bool) : OwnForm (.bits bs) .varBit
  | hstore (pairs : List (String × Option String)) : OwnForm (.hstore pairs) .hstore
  | range (r : Range Value) (schema : Option String) (name : String) (subtype : SqlType) :
      OwnForm (.range r) (.range schema name subtype)
  | array (items : List Value) (element : SqlType) : OwnForm (.array items) (.array element)

/-! ## Scalar values -/

/-- A value that is no scalar has no scalar text. -/
theorem scalarText_of_not_scalar {v : Value} (hv : isScalar v = false) (t : SqlType) :
    scalarText v t = .error (LiteralError.unmappedFor v t) := by
  cases v <;> simp only [isScalar, Bool.true_eq_false] at hv <;> rfl

/-- For a scalar value, the code renderer succeeds or fails as the scalar text does: both
    accept the same types, and refuse a span too long for the server alike.  One case per pair
    of value and type, each decided once both definitions are unfolded. -/
theorem codeOf_outcome_of_scalar {v : Value} (hv : isScalar v = true) (t : SqlType) :
    outcome (codeOf v t) = outcome (scalarText v t) := by
  unfold codeOf scalarText
  cases v <;> cases hv <;> cases t <;> simp only [outcome_ok, outcome_error, isIntegerTarget,
    isFloatTarget, isTextTarget, ↓reduceIte, Bool.false_eq_true]
  -- a span: both ask whether it counts in microseconds
  split <;> simp_all

theorem isNumericTarget_of_isIntegerTarget {t : SqlType} (h : isIntegerTarget t = true) :
    isNumericTarget t = true := by
  cases t <;> simp_all [isIntegerTarget, isNumericTarget]

theorem isNumericTarget_of_isFloatTarget {t : SqlType} (h : isFloatTarget t = true) :
    isNumericTarget t = true := by
  cases t <;> simp_all [isFloatTarget, isNumericTarget]

/-- A pair with no rule of its own, no number for a numeric type and no keyword before its
    text has no scalar text: every scalar text belongs to one of these. -/
theorem scalarText_unmapped {v : Value} {t : SqlType} (hown : ¬ OwnForm v t)
    (hnum : ¬ (isNumericTarget t && isNumber v) = true) (hk : typeKeyword t = none) :
    scalarText v t = .error (LiteralError.unmappedFor v t) := by
  unfold scalarText
  dsimp only
  split
  case h_1 b => exact absurd (.bool b) hown
  case h_2 n | h_3 n | h_4 n =>
    -- an integer for an integer type is a number for a numeric type
    refine if_neg fun hi => hnum ?_
    simp [isNumber, isNumericTarget_of_isIntegerTarget hi]
  case h_5 x | h_6 x =>
    refine if_neg fun hf => hnum ?_
    simp [isNumber, isNumericTarget_of_isFloatTarget hf]
  case h_7 s schema name => exact absurd (.enum s schema name) hown
  case h_8 =>
    -- text for a text type: its own rule, or a keyword
    refine if_neg fun ht => ?_
    cases t <;> simp [isTextTarget, typeKeyword] at ht hk
    case text => exact hown (.text _)
    case json => exact hown (.json _)
    case jsonb => exact hown (.jsonb _)
  case h_31 bs => exact absurd (.bit bs) hown
  case h_32 bs => exact absurd (.varBit bs) hown
  case h_34 => rfl
  -- every other scalar text is for a type written after a keyword
  all_goals simp [typeKeyword] at hk

/-- A value that is no scalar and has no rule of its own for the type has no code either. -/
theorem codeOf_of_not_scalar {v : Value} {t : SqlType} (hv : isScalar v = false)
    (hown : ¬ OwnForm v t) : codeOf v t = .error (LiteralError.unmappedFor v t) := by
  unfold codeOf
  cases v <;> simp only [isScalar, Bool.true_eq_false] at hv
  case null => exact absurd (.null t) hown
  case bytes bs =>
    cases t
    case bytea => exact absurd (.bytes bs) hown
    all_goals rfl
  case hstore pairs =>
    cases t
    case hstore => exact absurd (.hstore pairs) hown
    all_goals rfl
  case array items =>
    cases t
    case array element => exact absurd (.array items element) hown
    all_goals rfl
  case range r =>
    cases t
    case range schema name subtype => exact absurd (.range r schema name subtype) hown
    all_goals cases r <;> rfl

/-- The pairs the last rule of the SQL renderer sees are those with no rule of their own. -/
theorem not_ownForm {v : Value} {t : SqlType} (h1 : v = .null → False)
    (h2 : ∀ b, v = .bool b → t = .boolean → False)
    (h3 : ∀ s, v = .text s → t = .text → False)
    (h4 : ∀ s, v = .text s → t = .json → False)
    (h5 : ∀ s, v = .text s → t = .jsonb → False)
    (h6 : ∀ label schema name, v = .text label → t = .enum schema name → False)
    (h7 : ∀ bs, v = .bytes bs → t = .bytea → False)
    (h8 : ∀ bs, v = .bits bs → t = .bit → False)
    (h9 : ∀ bs, v = .bits bs → t = .varBit → False)
    (h10 : ∀ pairs, v = .hstore pairs → t = .hstore → False)
    (h11 : ∀ r schema name subtype, v = .range r → t = .range schema name subtype → False)
    (h12 : ∀ items element, v = .array items → t = .array element → False) :
    ¬ OwnForm v t := by
  intro ho
  cases ho
  case null => exact h1 rfl
  case bool => exact h2 _ rfl rfl
  case text => exact h3 _ rfl rfl
  case json => exact h4 _ rfl rfl
  case jsonb => exact h5 _ rfl rfl
  case enum => exact h6 _ _ _ rfl rfl
  case bytes => exact h7 _ rfl rfl
  case bit => exact h8 _ rfl rfl
  case varBit => exact h9 _ rfl rfl
  case hstore => exact h10 _ rfl rfl
  case range => exact h11 _ _ _ _ rfl rfl
  case array => exact h12 _ _ rfl rfl

/-- Off its own rules, the code renderer succeeds or fails as the scalar text does. -/
theorem codeOf_outcome_of_not_ownForm {v : Value} {t : SqlType} (hown : ¬ OwnForm v t) :
    outcome (codeOf v t) = outcome (scalarText v t) := by
  cases hv : isScalar v
  case true => exact codeOf_outcome_of_scalar hv t
  case false => rw [codeOf_of_not_scalar hv hown, scalarText_of_not_scalar hv]

/-! ## Range bounds -/

/-- A bound's value is written by its scalar text, quoted when needed. -/
theorem boundText_outcome (v : Value) (t : SqlType) :
    outcome (boundText v t) = outcome (scalarText v t) :=
  outcome_bind_pure _ _

/-- A bound's constructor holds a scalar value's code; for anything else there is none, just as
    there is no scalar text. -/
theorem guarded_code_outcome (v : Value) (t : SqlType) (f : String → String) :
    outcome (if isScalar v then codeOf v t >>= (fun c => pure (f c))
      else .error (LiteralError.unmappedFor v t)) = outcome (scalarText v t) := by
  split
  case isTrue hv => rw [outcome_bind_pure, codeOf_outcome_of_scalar hv]
  case isFalse hv => rw [scalarText_of_not_scalar (by simpa using hv)]

/-- A bound's part of a range's text and its constructor: nothing to write for a missing end,
    else the scalar text of its value. -/
theorem boundPart_outcome (included excluded : Char) (b : Bound Value) (subtype : SqlType) :
    outcome (boundPart included excluded b subtype) = outcome (boundCode b subtype) := by
  cases b
  case unbounded => rfl
  case included v | excluded v =>
    simp only [boundPart, boundCode]
    rw [outcome_bind_pure, boundText_outcome]
    exact (guarded_code_outcome v subtype _).symm

/-- A range's text and its constructor: both write the lower bound, then the upper. -/
theorem rangeText_outcome (r : Range Value) (schema : Option String) (name : String)
    (subtype : SqlType) :
    outcome (rangeText r subtype) = outcome (codeOf (.range r) (.range schema name subtype)) := by
  cases r with
  | empty => rfl
  | bounded lower upper =>
    simp only [rangeText]
    rw [codeOf]
    refine outcome_bind_congr (boundPart_outcome _ _ lower subtype) fun p _ => ?_
    obtain ⟨opening, lo⟩ := p
    refine outcome_bind_congr (boundPart_outcome _ _ upper subtype) fun q _ => ?_
    obtain ⟨closing, hi⟩ := q
    rfl

/-! ## The two renderers -/

/-- In either form, the SQL renderer succeeds or fails as the code renderer does.  The
    induction follows the SQL renderer's own recursion: an array's items are rendered in order
    by both sides, a range's bounds go through the scalar text, and its last rule falls back
    on the scalar text, or refuses the pair as the code renderer does. -/
theorem sqlIn_outcome (form : SqlForm) (v : Value) (t : SqlType) :
    outcome (sqlIn form v t) = outcome (codeOf v t) := by
  refine sqlIn.induct (fun form v t => outcome (sqlIn form v t) = outcome (codeOf v t))
    (fun element items => outcome (sqlItems element items) = outcome (codeItems element items))
    ?null ?bool ?text ?json ?jsonb ?enum ?bytes ?bit ?varBit ?hstore ?range ?array
    ?numberNonFinite ?number ?keyword ?unmapped ?nil ?cons form v t
  -- the pairs with a rule of their own succeed on both sides
  case null | bool | text | json | jsonb | enum | bytes | bit | varBit | hstore =>
    intros
    rfl
  case range =>
    intro form r schema name subtype
    rw [sqlIn.eq_11, outcome_bind_pure]
    exact rangeText_outcome r schema name subtype
  case array =>
    intro form items element ih
    rw [sqlIn.eq_12, outcome_bind_pure, codeOf, outcome_bind_pure]
    exact ih
  -- the last rule: a number for a numeric type, or a keyword, takes the scalar text
  case numberNonFinite =>
    intro form v t h1 h2 h3 h4 h5 h6 h7 h8 h9 h10 h11 h12 hn hf
    rw [sqlIn.eq_13 form v t h1 h2 h3 h4 h5 h6 h7 h8 h9 h10 h11 h12, if_pos hn, if_pos hf,
      outcome_bind_pure,
      codeOf_outcome_of_not_ownForm (not_ownForm h1 h2 h3 h4 h5 h6 h7 h8 h9 h10 h11 h12)]
  case number =>
    intro form v t h1 h2 h3 h4 h5 h6 h7 h8 h9 h10 h11 h12 hn hf
    rw [sqlIn.eq_13 form v t h1 h2 h3 h4 h5 h6 h7 h8 h9 h10 h11 h12, if_pos hn, if_neg hf,
      codeOf_outcome_of_not_ownForm (not_ownForm h1 h2 h3 h4 h5 h6 h7 h8 h9 h10 h11 h12)]
  case keyword =>
    intro form v t h1 h2 h3 h4 h5 h6 h7 h8 h9 h10 h11 h12 hn keyword hk
    rw [sqlIn.eq_13 form v t h1 h2 h3 h4 h5 h6 h7 h8 h9 h10 h11 h12, if_neg hn, hk]
    dsimp only
    rw [outcome_bind_pure,
      codeOf_outcome_of_not_ownForm (not_ownForm h1 h2 h3 h4 h5 h6 h7 h8 h9 h10 h11 h12)]
  case unmapped =>
    intro form v t h1 h2 h3 h4 h5 h6 h7 h8 h9 h10 h11 h12 hn hk
    have hown := not_ownForm h1 h2 h3 h4 h5 h6 h7 h8 h9 h10 h11 h12
    rw [sqlIn.eq_13 form v t h1 h2 h3 h4 h5 h6 h7 h8 h9 h10 h11 h12, if_neg hn, hk,
      ← scalarText_unmapped hown hn hk, codeOf_outcome_of_not_ownForm hown]
  case nil => intro; rfl
  case cons =>
    intro element v vs ihv ihvs
    rw [sqlItems.eq_2, codeItems.eq_2]
    exact outcome_bind_congr ihv fun _ _ => outcome_bind_congr ihvs fun _ _ => rfl


/-- The SQL literal and the code literal of a value of a type: one is written exactly when the
    other is, and when neither is, both refuse the pair with the same error. -/
theorem literal_renderers_accept_alike (v : Value) (t : SqlType) :
    ((∃ sql, sqlLiteral v t = .ok sql) ↔ ∃ code, codeOf v t = .ok code) ∧
      ∀ e, sqlLiteral v t = .error e ↔ codeOf v t = .error e :=
  agree_of_outcome_eq (sqlIn_outcome .typed v t)

/-- A null bound: the SQL side has no scalar text for it, the code side no constructor. -/
example :
    sqlLiteral (.range (.bounded (.included .null) .unbounded)) (.range none "r" .integer) =
        .error (LiteralError.unmappedFor .null .integer) ∧
      codeOf (.range (.bounded (.included .null) .unbounded)) (.range none "r" .integer) =
        .error (LiteralError.unmappedFor .null .integer) :=
  ⟨rfl, rfl⟩

end Literal

end PgMigrate
