import PgMigrate.Proofs.AlterationFailures
/-
  Creating a table fails on its first bad column, and otherwise gives one command.

  The program: `Generator.createTable` writes one definition line per column that is not a
  system column (`columnDefinition`), in order, then the primary key, unique, check and
  foreign-key clauses, into `CREATE [UNLOGGED] TABLE`, followed by `INTERLEAVE IN PARENT` when
  set and `WITH (…)` when the table has storage parameters; then `COMMENT ON TABLE` when the
  comment is not empty, and `COMMENT ON COLUMN` for each of those columns with a comment, all in
  one command.  A column with computed SQL is refused before version 12; any other column on the
  retired annotation, on an identity before version 10, or on a default literal that does not
  render.  A serial column on an integer store type is written with the serial type of its
  width, and an identity column ends in its `GENERATED … AS IDENTITY` clause.

  The specification (`createTable_fails_at_first_column`): generating the table fails exactly
  when some column's definition fails (`definitionFailure`), with the error of the first such
  column, and otherwise gives exactly one command, of the statements `tableStatements` lays out.

  The crux is a `mapM` read as a search (`mapM_orFail`): when each step fails as a function of
  its element says and otherwise gives that element's line, the whole map fails with the first
  failure or gives all the lines.
-/
namespace PgMigrate

/-! ## Computations that fail as an option says -/

/-- The computation that fails with the given error, if there is one, and otherwise gives the
    value. -/
def orFail {ε α : Type} (failure : Option ε) (a : α) : Except ε α :=
  match failure with
  | some e => .error e
  | none => .ok a

section OrFail

variable {ε α β : Type}

@[simp] theorem orFail_none (a : α) : orFail (none : Option ε) a = .ok a := rfl

@[simp] theorem orFail_some (e : ε) (a : α) : orFail (some e) a = .error e := rfl

@[simp] theorem failureOf_orFail (failure : Option ε) (a : α) :
    failureOf (orFail failure a) = failure := by
  cases failure <;> rfl

/-- A computation is the one that fails with its error and otherwise gives its value. -/
theorem eq_orFail (x : Except ε α) (d : α) : x = orFail (failureOf x) (x.toOption.getD d) := by
  cases x <;> rfl

theorem orFail_bind_pure (failure : Option ε) (a : α) (f : α → β) :
    (orFail failure a >>= fun x => pure (f x)) = orFail failure (f a) := by
  cases failure <;> rfl

/-- Two computations in a row fail with the first one's error, else with the second's. -/
theorem orFail_bind_orFail (first second : Option ε) (a : α) (f : α → β) :
    (orFail first a >>= fun x => orFail second (f x)) = orFail (first.or second) (f a) := by
  cases first <;> rfl

/-- A map whose every step fails as its element says, and otherwise gives the element's line,
    fails with the first failure in order, and otherwise gives every line. -/
theorem mapM_orFail (fail : α → Option ε) (line : α → β) (xs : List α) :
    xs.mapM (fun a => orFail (fail a) (line a)) = orFail (xs.findSome? fail) (xs.map line) := by
  induction xs with
  | nil => rfl
  | cons x xs ih =>
    rw [List.mapM_cons, ih, List.findSome?_cons, List.map_cons]
    -- the head's failure comes first; past it, the tail's
    cases fail x with
    | some e => rfl
    | none => cases xs.findSome? fail <;> rfl

end OrFail

/-! ## When a column's definition fails -/

namespace Generator

variable (g : Generator) (table column : String)

/-- Stored generated columns came with version 12: a computed column fails on an older target. -/
def computedVersionFailure : Option MigrationError :=
  match g.version with
  | some v => if v.major < 12 then some (.computedColumnsUnsupported table column v) else none
  | none => none

/-- Why a column's definition fails: computed SQL before version 12; any other column, in this
    order, on the retired annotation, on an identity before version 10, or on a default literal
    that does not render. -/
def definitionFailure (c : Column) : Option MigrationError :=
  match c.computedSql with
  | some _ => g.computedVersionFailure table c.name
  | none =>
    if c.legacyGeneratedOnAdd then some (.legacyGeneratedOnAdd table c.name)
    else (g.identityVersionFailure table c.name c.strategy).or (failureOf (Clause.default c))

theorem computedVersionFailure_isSome_iff :
    (g.computedVersionFailure table column).isSome ↔ ∃ v, g.version = some v ∧ v.major < 12 := by
  unfold computedVersionFailure
  cases g.version with
  | none => simp
  | some v =>
    by_cases hold : v.major < 12
    · simp [hold]
    · simp [hold]

/-- The target, when it comes before version 12, is what refuses a computed column. -/
theorem versionBefore_v12 :
    (g.versionBefore ServerVersion.v12).map (.computedColumnsUnsupported table column) =
      g.computedVersionFailure table column := by
  unfold computedVersionFailure
  rw [ServerVersion.v12, versionBefore_eq]
  cases g.version with
  | none => rfl
  | some v =>
    by_cases hold : v.major < 12
    · simp [Option.filter, hold]
    · simp [Option.filter, hold]

end Generator

/-- A default fails exactly as a literal, not SQL, that does not fit the column's type. -/
theorem failureOf_default_isSome_iff (c : Column) :
    (failureOf (Clause.default c)).isSome ↔
      c.defaultSql = none ∧
        ∃ x, c.defaultValue = some x ∧ ∃ e, Literal.sqlLiteral x c.sqlType = .error e := by
  unfold Clause.default
  cases hsql : c.defaultSql with
  | some sql => simp
  | none =>
    cases hv : c.defaultValue with
    | none => simp
    | some x => cases hl : Literal.sqlLiteral x c.sqlType <;> simp [hl]

namespace Generator

variable (g : Generator) (table : String)

/-- A column's definition fails on computed SQL before version 12; any other column on the
    retired annotation, on an identity before version 10, or on a default literal, not SQL,
    that does not render. -/
theorem definitionFailure_isSome_iff (c : Column) :
    (g.definitionFailure table c).isSome ↔
      (c.computedSql ≠ none ∧ ∃ v, g.version = some v ∧ v.major < 12) ∨
      (c.computedSql = none ∧
        (c.legacyGeneratedOnAdd = true ∨
          (c.strategy.isIdentity = true ∧ ∃ v, g.version = some v ∧ v.major < 10) ∨
          (c.defaultSql = none ∧
            ∃ x, c.defaultValue = some x ∧ ∃ e, Literal.sqlLiteral x c.sqlType = .error e))) := by
  unfold definitionFailure
  cases hcomp : c.computedSql with
  | some sql =>
    rw [computedVersionFailure_isSome_iff]
    simp
  | none =>
    dsimp only
    by_cases hl : c.legacyGeneratedOnAdd
    · rw [if_pos hl]
      simp [hl]
    · rw [if_neg hl, Option.isSome_or, Bool.or_eq_true, identityVersionFailure_isSome_iff,
        failureOf_default_isSome_iff]
      simp [hl]

end Generator

/-! ## What a column's definition writes -/

/-- The store type a column is written with: a serial column on an integer store type takes the
    serial type of its width. -/
def writtenType (strategy : Generation) (storeType : String) : String :=
  if strategy == .serial then (serialStoreType storeType).getD storeType else storeType

/-- What ends an identity column's definition. -/
def identitySuffix (strategy : Generation) : String :=
  match strategy.identityClause with
  | some clause => " GENERATED " ++ clause ++ " AS IDENTITY"
  | none => ""

/-- The serial rewrite covers exactly the integer store types. -/
theorem serialStoreType_isSome (s : String) : (serialStoreType s).isSome = isIntegerStoreType s := by
  unfold serialStoreType isIntegerStoreType
  by_cases h₁ : s = "int" <;> by_cases h₂ : s = "int4" <;> by_cases h₃ : s = "integer" <;>
    by_cases h₄ : s = "bigint" <;> by_cases h₅ : s = "int8" <;> by_cases h₆ : s = "smallint" <;>
    by_cases h₇ : s = "int2" <;> simp_all

theorem writtenType_of_ne_serial {strategy : Generation} (h : strategy ≠ .serial) (s : String) :
    writtenType strategy s = s := by
  rw [writtenType, if_neg (by simpa using h)]

/-- A serial column is written `serial`, `bigserial` or `smallserial` on the integer store types
    of each width, and with its own store type otherwise. -/
theorem writtenType_serial (s : String) :
    (s ∈ ["int", "int4", "integer"] → writtenType .serial s = "serial") ∧
    (s ∈ ["bigint", "int8"] → writtenType .serial s = "bigserial") ∧
    (s ∈ ["smallint", "int2"] → writtenType .serial s = "smallserial") ∧
    (isIntegerStoreType s = false → writtenType .serial s = s) := by
  refine ⟨?_, ?_, ?_, fun h => ?_⟩
  · simp only [List.mem_cons, List.not_mem_nil, or_false]
    rintro (rfl | rfl | rfl) <;> rfl
  · simp only [List.mem_cons, List.not_mem_nil, or_false]
    rintro (rfl | rfl) <;> rfl
  · simp only [List.mem_cons, List.not_mem_nil, or_false]
    rintro (rfl | rfl) <;> rfl
  · -- no serial type stands for a store type that is no integer
    have hnone : serialStoreType s = none := by
      rw [← Option.not_isSome_iff_eq_none, serialStoreType_isSome, h]
      decide
    rw [writtenType, if_pos (by decide), hnone, Option.getD_none]

/-- Only identity columns end in an identity clause, `ALWAYS` or `BY DEFAULT` as their
    strategy says. -/
theorem identitySuffix_eq (strategy : Generation) :
    identitySuffix strategy =
      if strategy = .identityAlways then " GENERATED ALWAYS AS IDENTITY"
      else if strategy = .identityByDefault then " GENERATED BY DEFAULT AS IDENTITY"
      else "" := by
  cases strategy <;> rfl

namespace Generator

/-- The line a column's definition writes once it passes its checks: a computed column its
    expression, any other its store type as written, nullability, default and identity clause. -/
def definitionLine (model : Option DatabaseModel) (schema : Option String) (table : String)
    (c : Column) : String :=
  match c.computedSql with
  | some sql => Ident.delimit c.name ++ " " ++ columnType model schema table c ++
      " GENERATED ALWAYS AS (" ++ sql ++ ") STORED"
  | none => Ident.delimit c.name ++ " " ++ writtenType c.strategy (columnType model schema table c) ++
      " " ++ (if c.nullable then "NULL" else "NOT NULL") ++ (Clause.default c).toOption.getD "" ++
      identitySuffix c.strategy

variable (g : Generator) (model : Option DatabaseModel) (schema : Option String) (table : String)

theorem checkValueGeneration_eq (c : Column) :
    g.checkValueGeneration table c =
      orFail (if c.legacyGeneratedOnAdd then some (.legacyGeneratedOnAdd table c.name)
        else g.identityVersionFailure table c.name c.strategy) () := by
  unfold checkValueGeneration
  by_cases hl : c.legacyGeneratedOnAdd
  · rw [if_pos hl, if_pos hl]
    rfl
  · rw [if_neg hl, if_neg hl, ← failureOf_checkIdentitySupported]
    exact eq_orFail _ ()

/-- A column's definition fails as `definitionFailure` says, and otherwise writes its line. -/
theorem columnDefinition_eq (c : Column) :
    g.columnDefinition model schema table c =
      orFail (g.definitionFailure table c) (definitionLine model schema table c) := by
  unfold columnDefinition definitionFailure definitionLine
  cases hcomp : c.computedSql with
  | some sql =>
    dsimp only
    rw [← versionBefore_v12 g table c.name]
    cases g.versionBefore ServerVersion.v12 <;> rfl
  | none =>
    dsimp only
    conv_lhs => rw [checkValueGeneration_eq, eq_orFail (Clause.default c) "", orFail_bind_pure]
    by_cases hl : c.legacyGeneratedOnAdd
    · rw [if_pos hl, if_pos hl]
      rfl
    · rw [if_neg hl, if_neg hl, orFail_bind_orFail]
      rfl

end Generator

/-! ## The command that creates a table -/

namespace Generator

/-- The statements creating a table, once every column passes its checks: `CREATE TABLE` with
    the definition lines of its columns that are not system columns and its clauses, its
    interleaving and its storage parameters; the table's comment when it is not empty; the
    comment of each of those columns that has one. -/
def tableStatements (model : Option DatabaseModel) (t : Table) : List String :=
  let qualified := Ident.qualify t.name t.schema
  let cols := userColumns t.columns
  let lines := cols.map (definitionLine model t.schema t.name) ++
    (t.primaryKey.map Clause.primaryKey).toList ++ t.uniqueConstraints.map Clause.unique ++
    t.checkConstraints.map Clause.check ++ t.foreignKeys.map Clause.foreignKey
  let interleave := match t.interleaveInParent with
    | some i => "\nINTERLEAVE IN PARENT " ++ Ident.qualify i.parentTable i.parentSchema ++ " (" ++
        Clause.columnList i.prefixColumns ++ ")"
    | none => ""
  let parameters := storageParameters t.options
  let storage := if parameters.isEmpty then "" else "\nWITH (" ++ formatAssignments parameters ++ ")"
  ("CREATE " ++ (if t.options.isUnlogged then "UNLOGGED " else "") ++ "TABLE " ++ qualified ++
      " (\n" ++ ",\n".intercalate (lines.map (indent ++ ·)) ++ "\n)" ++ interleave ++ storage) ::
    ((t.options.comment.filter (!·.isEmpty)).map fun c =>
      "COMMENT ON TABLE " ++ qualified ++ " IS " ++ sqlQuote c).toList ++
    cols.filterMap fun c => c.comment.map fun cm =>
      "COMMENT ON COLUMN " ++ qualified ++ "." ++ Ident.delimit c.name ++ " IS " ++ sqlQuote cm

variable (g : Generator) (model : Option DatabaseModel)

/-- Creating a table fails with the first failing column, and otherwise gives its statements as
    one batch. -/
theorem createTable_eq (t : Table) :
    g.createTable model t =
      orFail ((userColumns t.columns).findSome? (g.definitionFailure t.name))
        (batch (tableStatements model t)) := by
  have hdef : g.columnDefinition model t.schema t.name = fun c =>
      orFail (g.definitionFailure t.name c) (definitionLine model t.schema t.name c) :=
    funext (g.columnDefinition_eq model t.schema t.name)
  unfold createTable
  rw [hdef, mapM_orFail, orFail_bind_pure]
  unfold tableStatements
  -- the `CREATE TABLE` statement is the same; the table comments are compared
  congr 4
  -- the table comment is written exactly when it is not empty
  cases t.options.comment with
  | none => rfl
  | some c => cases h : c.isEmpty <;> simp [Option.filter, h]

/-- Generating a table's creation fails with the first failing column, and otherwise gives one
    command of its statements. -/
theorem generate_createTable (t : Table) :
    g.generate [.createTable t] model =
      orFail ((userColumns t.columns).findSome? (g.definitionFailure t.name))
        [{ sql := terminated (tableStatements model t) }] := by
  have hemit : g.emissions model (.createTable t) = g.createTable model t := rfl
  cases hfail : (userColumns t.columns).findSome? (g.definitionFailure t.name) with
  | some e =>
    rw [orFail_some, ← failureOf_eq_some_iff, failureOf_generate_singleton, hemit,
      createTable_eq, hfail, failureOf_orFail]
  | none =>
    have hne : tableStatements model t ≠ [] := List.cons_ne_nil _ _
    rw [createTable_eq, hfail, orFail_none] at hemit
    rw [generate_batch g model hemit, if_neg hne, orFail_none]

/-- Creating a table fails exactly when one of its columns that is not a system column fails,
    with the error of the first: a computed column before version 12; any other column on the
    retired annotation, on an identity before version 10, or on a default literal, not SQL, that
    does not render.  Otherwise it gives exactly one command, whose statements are
    `CREATE [UNLOGGED] TABLE` with the columns' definition lines in order and then the key,
    unique, check and foreign-key clauses, the interleaving when set and the storage parameters
    when there are any; `COMMENT ON TABLE` when the comment is not empty; `COMMENT ON COLUMN` for
    each of those columns with a comment.  A serial column on an integer store type is written
    `serial`, `bigserial` or `smallserial` by its width, and an identity column ends in
    `GENERATED ALWAYS AS IDENTITY` or `GENERATED BY DEFAULT AS IDENTITY`. -/
theorem createTable_fails_at_first_column (t : Table) :
    let cols := userColumns t.columns
    g.generate [.createTable t] model =
        orFail (cols.findSome? (g.definitionFailure t.name))
          [{ sql := terminated (tableStatements model t) }] ∧
    ((∃ e, g.generate [.createTable t] model = .error e) ↔
      ∃ c ∈ cols, (g.definitionFailure t.name c).isSome) ∧
    (∀ c, (g.definitionFailure t.name c).isSome ↔
      (c.computedSql ≠ none ∧ ∃ v, g.version = some v ∧ v.major < 12) ∨
      (c.computedSql = none ∧
        (c.legacyGeneratedOnAdd = true ∨
          (c.strategy.isIdentity = true ∧ ∃ v, g.version = some v ∧ v.major < 10) ∨
          (c.defaultSql = none ∧
            ∃ x, c.defaultValue = some x ∧ ∃ e, Literal.sqlLiteral x c.sqlType = .error e)))) ∧
    (∀ s, (s ∈ ["int", "int4", "integer"] → writtenType .serial s = "serial") ∧
      (s ∈ ["bigint", "int8"] → writtenType .serial s = "bigserial") ∧
      (s ∈ ["smallint", "int2"] → writtenType .serial s = "smallserial") ∧
      (isIntegerStoreType s = false → writtenType .serial s = s)) ∧
    (∀ strategy, strategy ≠ .serial → ∀ s, writtenType strategy s = s) ∧
    (∀ strategy, identitySuffix strategy =
      if strategy = .identityAlways then " GENERATED ALWAYS AS IDENTITY"
      else if strategy = .identityByDefault then " GENERATED BY DEFAULT AS IDENTITY"
      else "") := by
  intro cols
  have hgen := g.generate_createTable model t
  refine ⟨hgen, ?_, g.definitionFailure_isSome_iff t.name, writtenType_serial,
    fun _ h => writtenType_of_ne_serial h, identitySuffix_eq⟩
  -- the search finds a failure exactly when some column has one
  rw [hgen, ← List.findSome?_isSome_iff]
  cases cols.findSome? (g.definitionFailure t.name) <;> simp

/-- On version 11 a table with a serial key and a computed column fails on the computed column;
    the key is written `serial` where it passes. -/
theorem versionEleven_refuses_computed :
    let g : Generator := { version := some ⟨11, 0⟩ }
    let t : Table := { name := "orders", columns := [
      { name := "id", sqlType := .integer, storeType := some "int4", strategy := .serial },
      { name := "total", sqlType := .integer, computedSql := some "1" }] }
    g.generate [.createTable t] none =
        .error (.computedColumnsUnsupported "orders" "total" ⟨11, 0⟩) ∧
      "int4" ∈ ["int", "int4", "integer"] ∧ writtenType .serial "int4" = "serial" ∧
      Generation.identityAlways ≠ .serial ∧ writtenType .identityAlways "int4" = "int4" := by
  intro g t
  obtain ⟨hgen, -, -, hserial, hother, -⟩ := createTable_fails_at_first_column g none t
  refine ⟨?_, by decide, (hserial "int4").1 (by decide), by decide,
    hother .identityAlways (by decide) "int4"⟩
  rw [hgen]
  rfl

end Generator

end PgMigrate
