import PgMigrate.Proofs.ColumnTransitions
/-
  When altering a column fails.

  The program: `Generator.alterColumn` refuses a column that carries the retired annotation;
  it then moves the column between generation strategies (`strategyTransition`), which refuses
  an identity before version 10, an identity turned serial, a column turned serial whose store
  type is no integer, and any move into HiLo; last it renders the default literal of a column
  left without a strategy, which fails where the literal does not fit the column's type.  The
  first check that fails stops the alteration.

  The specification (`alterColumn_fails_at_first_failing_check`): `alterationFailure` chains
  the checks in that order, each giving its error or nothing, the first error winning.  Altering
  a column in place fails exactly when one of the checks fails, and then with the error of the
  first; since generating a list of operations stops at the first that fails, nothing generated
  before it is returned.

  The crux is `failureOf`, the error a computation stops with: a bind whose continuation fails
  alike for every value chains as `Option.or` (`failureOf_bind_const`), so each source of
  failure is read on its own.
-/
namespace PgMigrate

/-! ## The error of a computation -/

/-- The error a computation stops with, if it does. -/
def failureOf {ε α : Type} : Except ε α → Option ε
  | .ok _ => none
  | .error e => some e

section Failure

variable {ε α β : Type}

@[simp] theorem failureOf_ok (a : α) : failureOf (.ok a : Except ε α) = none := rfl

@[simp] theorem failureOf_error (e : ε) : failureOf (.error e : Except ε α) = some e := rfl

@[simp] theorem failureOf_pure (a : α) : failureOf (pure a : Except ε α) = none := rfl

@[simp] theorem failureOf_throw (e : ε) : failureOf (throw e : Except ε α) = some e := rfl

theorem failureOf_eq_some_iff {x : Except ε α} {e : ε} : failureOf x = some e ↔ x = .error e := by
  cases x <;> simp

theorem failureOf_isSome_iff {x : Except ε α} : (failureOf x).isSome ↔ ∃ e, x = .error e := by
  cases x <;> simp

/-- A computation followed by one that fails alike whatever it is given fails with the first
    one's error, else with the second's. -/
theorem failureOf_bind_const {x : Except ε α} {f : α → Except ε β} {y : Option ε}
    (hf : ∀ a, failureOf (f a) = y) : failureOf (x >>= f) = (failureOf x).or y := by
  cases x with
  | error e => rfl
  | ok a => exact hf a

@[simp] theorem failureOf_map (f : α → β) (x : Except ε α) :
    failureOf (f <$> x) = failureOf x := by
  cases x <;> rfl

end Failure

/-! ## The checks, in order -/

/-- Versions are ordered by major, then minor number. -/
theorem ServerVersion.le_iff (a b : ServerVersion) :
    a.le b = true ↔ a.major < b.major ∨ (a.major = b.major ∧ a.minor ≤ b.minor) := by
  simp [ServerVersion.le]

/-- A first release of a major number comes no later than `v` exactly when its major number is
    at most `v`'s. -/
theorem ServerVersion.major_le_iff (m : Nat) (v : ServerVersion) :
    (⟨m, 0⟩ : ServerVersion).le v = true ↔ m ≤ v.major := by
  rw [ServerVersion.le_iff]
  simp only [Nat.zero_le, and_true]
  omega

namespace Generator

variable (g : Generator) (table column : String)

/-- Identity columns came with version 10: an identity fails on an older target. -/
def identityVersionFailure (target : Generation) : Option MigrationError :=
  match g.version with
  | some v =>
    if target.isIdentity ∧ v.major < 10 then some (.identityColumnsUnsupported table column target v)
    else none
  | none => none

/-- The moves between two different strategies that no statement makes: from an identity back
    to serial, from none to serial on a store type that is no integer, and anything into HiLo. -/
def pairFailure (columnType : String) (source target : Generation) : Option MigrationError :=
  if source.isIdentity ∧ target = .serial then some (.identityToSerial table column)
  else if source = .none ∧ target = .serial ∧ isIntegerStoreType columnType = false then
    some (.serialOnNonInteger table column columnType)
  else if target = .hiLo then some (.unsupportedStrategyTransition table column source target)
  else none

end Generator

/-- A column left without a generation strategy whose default is a literal, not SQL, fails
    when the literal does not fit the column's type. -/
def Column.defaultFailure (c : Column) : Option MigrationError :=
  if c.strategy = .none ∧ c.defaultSql = none then
    (c.defaultValue.bind fun x => failureOf (Literal.sqlLiteral x c.sqlType)).map .literal
  else none

namespace Generator

variable (g : Generator) (table column : String)

theorem identityVersionFailure_isSome_iff (target : Generation) :
    (g.identityVersionFailure table column target).isSome ↔
      target.isIdentity = true ∧ ∃ v, g.version = some v ∧ v.major < 10 := by
  unfold identityVersionFailure
  cases hv : g.version with
  | none => simp
  | some v =>
    dsimp only
    by_cases h : target.isIdentity = true ∧ v.major < 10
    · rw [if_pos h]
      simpa using h
    · rw [if_neg h]
      simpa using h

theorem pairFailure_isSome_iff (columnType : String) (source target : Generation) :
    (pairFailure table column columnType source target).isSome ↔
      (source.isIdentity = true ∧ target = .serial) ∨
        (source = .none ∧ target = .serial ∧ isIntegerStoreType columnType = false) ∨
        target = .hiLo := by
  unfold pairFailure
  split
  · rename_i h
    simp [h]
  · split
    · rename_i h₁ h₂
      simp [h₂]
    · split
      · rename_i h₁ h₂ h₃
        simp [h₃]
      · rename_i h₁ h₂ h₃
        simp [h₁, h₂, h₃]

end Generator

theorem Column.defaultFailure_isSome_iff (c : Column) :
    c.defaultFailure.isSome ↔
      c.strategy = .none ∧ c.defaultSql = none ∧
        ∃ x, c.defaultValue = some x ∧ ∃ e, Literal.sqlLiteral x c.sqlType = .error e := by
  unfold defaultFailure
  by_cases hs : c.strategy = .none ∧ c.defaultSql = none
  · rw [if_pos hs]
    cases hv : c.defaultValue with
    | none => simp
    | some x =>
      cases hl : Literal.sqlLiteral x c.sqlType <;> simp [hs, hl]
  · rw [if_neg hs]
    simp only [Option.isSome_none, Bool.false_eq_true, false_iff]
    exact fun h => hs ⟨h.1, h.2.1⟩

/-- Why altering a column in place fails: the first failing check, in the order retired
    annotation, identity version, pair of strategies, default literal; the two middle ones only
    when the strategy changes. -/
def Generator.alterationFailure (g : Generator) (model : Option DatabaseModel)
    (schema : Option String) (table : String) (old new : Column) : Option MigrationError :=
  if new.legacyGeneratedOnAdd then some (.legacyGeneratedOnAdd table new.name)
  else
    let transition :=
      if old.strategy ≠ new.strategy then
        (g.identityVersionFailure table new.name new.strategy).or
          (pairFailure table new.name (columnType model schema table new) old.strategy
            new.strategy)
      else none
    transition.or new.defaultFailure

namespace Generator

variable (g : Generator) (schema : Option String) (table column : String)

/-- Altering a column fails on the retired annotation; when the strategy changes, on an identity
    before version 10, an identity turned serial, a column turned serial whose store type is no
    integer, or a move into HiLo; or on a default literal of a column without a strategy that
    does not render. -/
theorem alterationFailure_isSome_iff (model : Option DatabaseModel) (old new : Column) :
    (g.alterationFailure model schema table old new).isSome ↔
      new.legacyGeneratedOnAdd = true ∨
      (old.strategy ≠ new.strategy ∧
        ((new.strategy.isIdentity = true ∧ ∃ v, g.version = some v ∧ v.major < 10) ∨
          (old.strategy.isIdentity = true ∧ new.strategy = .serial) ∨
          (old.strategy = .none ∧ new.strategy = .serial ∧
            isIntegerStoreType (columnType model schema table new) = false) ∨
          new.strategy = .hiLo)) ∨
      (new.strategy = .none ∧ new.defaultSql = none ∧
        ∃ x, new.defaultValue = some x ∧ ∃ e, Literal.sqlLiteral x new.sqlType = .error e) := by
  unfold alterationFailure
  by_cases hl : new.legacyGeneratedOnAdd
  · rw [if_pos hl]
    simp [hl]
  · rw [if_neg hl]
    dsimp only
    rw [Option.isSome_or, Bool.or_eq_true, Column.defaultFailure_isSome_iff]
    by_cases hne : old.strategy ≠ new.strategy
    · rw [if_pos hne, Option.isSome_or, Bool.or_eq_true, identityVersionFailure_isSome_iff,
        pairFailure_isSome_iff]
      simp [hl, hne]
    · rw [if_neg hne]
      simp [hl, hne]

/-- The target comes before the first release of a major number exactly when its own major
    number is smaller. -/
theorem versionBefore_eq (m : Nat) :
    g.versionBefore ⟨m, 0⟩ = g.version.filter fun v => v.major < m := by
  unfold versionBefore
  congr 1
  funext v
  by_cases hm : m ≤ v.major
  · rw [(ServerVersion.major_le_iff m v).2 hm]
    simp only [Bool.not_true, Bool.false_eq, decide_eq_false_iff_not]
    omega
  · rw [Bool.eq_false_iff.2 (fun h => hm ((ServerVersion.major_le_iff m v).1 h))]
    simp only [Bool.not_false, Bool.true_eq, decide_eq_true_eq]
    omega

theorem failureOf_checkIdentitySupported (target : Generation) :
    failureOf (g.checkIdentitySupported table column target) =
      g.identityVersionFailure table column target := by
  unfold checkIdentitySupported identityVersionFailure
  rw [ServerVersion.v10, versionBefore_eq]
  cases g.version with
  | none => cases target <;> rfl
  | some v =>
    by_cases hold : v.major < 10
    · cases target <;> simp [Generation.isIdentity, Option.filter, hold]
    · cases target <;> simp [Generation.isIdentity, Option.filter, hold]

theorem failureOf_strategyTransition (c : Column) (columnType alterBase : String)
    (source : Generation) (hne : source ≠ c.strategy) :
    failureOf (g.strategyTransition schema table c columnType alterBase source) =
      (g.identityVersionFailure table c.name c.strategy).or
        (pairFailure table c.name columnType source c.strategy) := by
  unfold strategyTransition
  rw [failureOf_bind_const (y := pairFailure table c.name columnType source c.strategy),
    failureOf_checkIdentitySupported]
  intro u
  dsimp only
  generalize c.strategy = t at hne ⊢
  -- one case per pair of different strategies; only turning serial reads the store type
  cases source <;> cases t <;> simp at hne <;> dsimp only
  case none.serial =>
    unfold pairFailure
    cases isIntegerStoreType columnType <;> simp [Generation.isIdentity]
  all_goals simp [pairFailure, Generation.isIdentity]

theorem failureOf_strategyChange (old new : Column) (columnType alterBase : String) :
    failureOf (g.strategyChange schema table old new columnType alterBase) =
      if old.strategy ≠ new.strategy then
        (g.identityVersionFailure table new.name new.strategy).or
          (pairFailure table new.name columnType old.strategy new.strategy)
      else none := by
  unfold strategyChange
  by_cases hne : old.strategy ≠ new.strategy
  · rw [if_pos (by simpa using hne), if_pos hne]
    exact g.failureOf_strategyTransition schema table new columnType alterBase old.strategy hne
  · rw [if_neg (by simpa using hne), if_neg hne]
    rfl

theorem failureOf_defaultChange (new : Column) (alterBase : String) :
    failureOf (defaultChange new alterBase) = new.defaultFailure := by
  unfold defaultChange Column.defaultFailure
  by_cases hs : new.strategy = .none
  · rw [if_pos (by simp [hs]), failureOf_map]
    unfold Clause.default
    -- SQL text is never checked; a literal fails where it does not render
    cases hsql : new.defaultSql with
    | some sql => simp [hs]
    | none =>
      rw [if_pos ⟨hs, rfl⟩]
      cases hv : new.defaultValue with
      | none => rfl
      | some x =>
        cases hl : Literal.sqlLiteral x new.sqlType <;> simp [hl]
  · rw [if_neg (by simp [hs]), if_neg (fun h => hs h.1)]
    rfl

/-- Altering a column in place fails exactly as `alterationFailure` says. -/
theorem failureOf_alterColumn (model : Option DatabaseModel) (old new : Column)
    (hsys : isSystemColumn new.name = false) (hcomputed : new.computedSql = none) :
    failureOf (g.alterColumn model schema table old new) =
      g.alterationFailure model schema table old new := by
  unfold alterColumn alterationFailure
  rw [if_neg (by simp [hsys]), if_neg (by simp [hcomputed])]
  by_cases hl : new.legacyGeneratedOnAdd
  · rw [if_pos hl, if_pos hl]
    rfl
  · rw [if_neg hl, if_neg hl]
    dsimp only
    -- neither later step looks at what the earlier one gave
    rw [failureOf_bind_const (y := new.defaultFailure), failureOf_strategyChange]
    intro _
    rw [failureOf_bind_const (y := none), failureOf_defaultChange, Option.or_none]
    intro _
    rfl

/-- On version 9.6 a column turned identity fails on the version, before its pair of strategies
    or its default is looked at. -/
example :
    ({ version := some ⟨9, 6⟩ } : Generator).alterColumn none none "people"
        { name := "id", sqlType := .text }
        { name := "id", sqlType := .text, strategy := .identityAlways } =
      .error (.identityColumnsUnsupported "people" "id" .identityAlways ⟨9, 6⟩) := by
  rfl

/-! ## Generating a failing operation -/

variable (model : Option DatabaseModel)

/-- One operation generates its commands, or fails as its own emissions fail. -/
theorem failureOf_generate_singleton (op : SchemaOperation) :
    failureOf (g.generate [op] model) = failureOf (g.emissions model op) := by
  rw [generate_eq_emitAll, List.mapM_cons, List.mapM_nil]
  cases g.emissions model op <;> rfl

/-- An operation that fails discards every command: generating a list with it gives the error
    of the operations before it, else its own. -/
theorem generate_of_emissions_error {op : SchemaOperation} {e : MigrationError}
    (h : g.emissions model op = .error e) (before after : List SchemaOperation) :
    g.generate (before ++ op :: after) model = (g.generate before model >>= fun _ => .error e) := by
  have hop : g.generate [op] model = .error e := by
    rw [← failureOf_eq_some_iff, failureOf_generate_singleton, h]
    rfl
  rw [← List.singleton_append, generate_append, generate_append, hop]
  cases g.generate before model <;> rfl

/-- Altering a column in place fails exactly when one of its checks fails: the retired
    annotation; when the strategy changes, an identity before version 10, an identity turned
    serial, a column turned serial whose store type is no integer, or a move into HiLo; a
    default literal of a column without a strategy that does not render.  The error is that of
    the first failing check, in this order, and generating any list of operations that holds the
    alteration then returns no command. -/
theorem alterColumn_fails_at_first_failing_check (old new : Column)
    (hsys : isSystemColumn new.name = false) (hcomputed : new.computedSql = none) :
    let op := SchemaOperation.alterColumn schema table old new
    ((∃ e, g.generate [op] model = .error e) ↔
      new.legacyGeneratedOnAdd = true ∨
      (old.strategy ≠ new.strategy ∧
        ((new.strategy.isIdentity = true ∧ ∃ v, g.version = some v ∧ v.major < 10) ∨
          (old.strategy.isIdentity = true ∧ new.strategy = .serial) ∨
          (old.strategy = .none ∧ new.strategy = .serial ∧
            isIntegerStoreType (columnType model schema table new) = false) ∨
          new.strategy = .hiLo)) ∨
      (new.strategy = .none ∧ new.defaultSql = none ∧
        ∃ x, new.defaultValue = some x ∧ ∃ e, Literal.sqlLiteral x new.sqlType = .error e)) ∧
    (∀ e, g.generate [op] model = .error e ↔
      g.alterationFailure model schema table old new = some e) ∧
    ∀ e, g.alterationFailure model schema table old new = some e →
      ∀ before after, g.generate (before ++ op :: after) model =
        (g.generate before model >>= fun _ => .error e) := by
  intro op
  have hfail : failureOf (g.emissions model op) = g.alterationFailure model schema table old new :=
    g.failureOf_alterColumn schema table model old new hsys hcomputed
  refine ⟨?_, ?_, ?_⟩
  · rw [← failureOf_isSome_iff, failureOf_generate_singleton, hfail]
    exact g.alterationFailure_isSome_iff schema table model old new
  · intro e
    rw [← failureOf_eq_some_iff, failureOf_generate_singleton, hfail]
  · intro e he before after
    have hop : g.emissions model op = .error e := by
      rw [← failureOf_eq_some_iff, hfail, he]
    exact g.generate_of_emissions_error model hop before after

/-- A text column turned serial fails: its store type is no integer. -/
theorem textCode_turned_serial_fails :
    let g : Generator := {}
    let old : Column := { name := "code", sqlType := .text }
    let new : Column := { old with strategy := .serial }
    let op := SchemaOperation.alterColumn none "people" old new
    isSystemColumn new.name = false ∧ new.computedSql = none ∧
    ((∃ e, g.generate [op] none = .error e) ↔
      new.legacyGeneratedOnAdd = true ∨
      (old.strategy ≠ new.strategy ∧
        ((new.strategy.isIdentity = true ∧ ∃ v, g.version = some v ∧ v.major < 10) ∨
          (old.strategy.isIdentity = true ∧ new.strategy = .serial) ∨
          (old.strategy = .none ∧ new.strategy = .serial ∧
            isIntegerStoreType (columnType none none "people" new) = false) ∨
          new.strategy = .hiLo)) ∨
      (new.strategy = .none ∧ new.defaultSql = none ∧
        ∃ x, new.defaultValue = some x ∧ ∃ e, Literal.sqlLiteral x new.sqlType = .error e)) ∧
    (∀ e, g.generate [op] none = .error e ↔
      g.alterationFailure none none "people" old new = some e) ∧
    ∀ e, g.alterationFailure none none "people" old new = some e →
      ∀ before after, g.generate (before ++ op :: after) none =
        (g.generate before none >>= fun _ => .error e) := by
  intro g old new op
  have hsys : isSystemColumn new.name = false := by decide
  exact ⟨hsys, rfl, alterColumn_fails_at_first_failing_check g none "people" none old new hsys rfl⟩

end Generator

end PgMigrate
