import PgMigrate.Migration.Error
import PgMigrate.Migration.Storage
import PgMigrate.Schema.Model
import PgMigrate.Literal.Sql
import PgMigrate.Ident
/-
  SQL fragments shared by the statements.

  Constraint clauses put `CONSTRAINT name ` first when the constraint is named.  A foreign
  key lists the principal columns only when there are any, and its actions only when they
  are not `NO ACTION`.  A default is `DEFAULT (sql)` when an SQL default is given, else the
  value's literal for the column's type.  A sequence's options restate the increment,
  both bounds (`NO MINVALUE` when unset) and cycling.
-/
namespace PgMigrate

namespace Clause

/-- Names delimited and joined by `, `. -/
def columnList (cs : List String) : String := ", ".intercalate (cs.map Ident.delimit)

/-- `CONSTRAINT name `, or nothing. -/
def constraintName : Option String → String
  | some n => "CONSTRAINT " ++ Ident.delimit n ++ " "
  | none => ""

/-- `PRIMARY KEY (…)`. -/
def primaryKey (k : PrimaryKey) : String :=
  constraintName k.name ++ "PRIMARY KEY (" ++ columnList k.columns ++ ")"

/-- `UNIQUE (…)`. -/
def unique (k : UniqueConstraint) : String :=
  constraintName k.name ++ "UNIQUE (" ++ columnList k.columns ++ ")"

/-- `CHECK (…)`. -/
def check (k : CheckConstraint) : String := constraintName k.name ++ "CHECK (" ++ k.sql ++ ")"

/-- `FOREIGN KEY (…) REFERENCES …`. -/
def foreignKey (k : ForeignKey) : String :=
  constraintName k.name ++ "FOREIGN KEY (" ++ columnList k.columns ++ ") REFERENCES " ++
    Ident.qualify k.principalTable k.principalSchema ++
    (if k.principalColumns.isEmpty then "" else " (" ++ columnList k.principalColumns ++ ")") ++
    (if k.onUpdate == .noAction then "" else " ON UPDATE " ++ k.onUpdate.sql) ++
    (if k.onDelete == .noAction then "" else " ON DELETE " ++ k.onDelete.sql)

/-- ` DEFAULT (sql)`, ` DEFAULT literal`, or nothing. -/
def default (c : Column) : Except MigrationError String :=
  match c.defaultSql, c.defaultValue with
  | some sql, _ => .ok (" DEFAULT (" ++ sql ++ ")")
  | none, some v =>
    match Literal.sqlLiteral v c.sqlType with
    | .ok lit => .ok (" DEFAULT " ++ lit)
    | .error e => .error (.literal e)
  | none, none => .ok ""

/-- A comment's literal; `NULL` removes the comment. -/
def commentLiteral : Option String → String
  | some s => sqlQuote s
  | none => "NULL"

/-- ` INCREMENT BY n MINVALUE … MAXVALUE … [NO] CYCLE`. -/
def sequenceOptions (q : Sequence) : String :=
  " INCREMENT BY " ++ toString q.incrementBy ++
    (match q.minValue with
      | some v => " MINVALUE " ++ toString v
      | none => " NO MINVALUE") ++
    (match q.maxValue with
      | some v => " MAXVALUE " ++ toString v
      | none => " NO MAXVALUE") ++
    (if q.cycle then " CYCLE" else " NO CYCLE")

/-- The integer type a serial column's sequence counts in. -/
def integerSqlType (storeType : String) : SqlType :=
  if storeType == "smallint" || storeType == "int2" then .smallInt
  else if storeType == "bigint" || storeType == "int8" then .bigInt
  else .integer

/-- An operator class, `schema.opclass` delimited part by part. -/
def delimitOperator (op : String) : String :=
  match Ident.splitSchema op with
  | (some schema, name) => Ident.qualify name (some schema)
  | (none, _) => Ident.delimit op

end Clause

end PgMigrate
