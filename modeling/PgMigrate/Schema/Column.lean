import PgMigrate.SqlType
import PgMigrate.Generation
import PgMigrate.Value.Basic
/-
  Columns.

  A column has a name and a meaning (`SqlType`); the SQL type written for it is its own
  `storeType` when one is given, else the one its meaning resolves to with the length
  facets.  A default is a value or an SQL expression; a computed column has the
  expression of a stored generated column.  `strategy` says how the server produces
  values on insert.  `legacyGeneratedOnAdd` marks a column described with the retired
  annotation, which the generator refuses.
-/
namespace PgMigrate

/-- A column of a table. -/
structure Column where
  name : String
  sqlType : SqlType
  storeType : Option String := none
  nullable : Bool := false
  maxLength : Option Nat := none
  fixedLength : Bool := false
  defaultValue : Option Value := none
  defaultSql : Option String := none
  computedSql : Option String := none
  comment : Option String := none
  strategy : Generation := .none
  legacyGeneratedOnAdd : Bool := false
deriving Inhabited

namespace Column

/-- The SQL type of the column on its own: the explicit one, else the resolved one. -/
def ownStoreType (c : Column) : String :=
  c.storeType.getD (c.sqlType.resolveStoreType c.maxLength c.fixedLength)

/-- Whether the column has a literal or SQL default. -/
def hasDefault (c : Column) : Bool := c.defaultValue.isSome || c.defaultSql.isSome

end Column

end PgMigrate
