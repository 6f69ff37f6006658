import PgMigrate.Schema.Column
import PgMigrate.Schema.Constraint
import PgMigrate.Schema.Storage
/-
  Tables and their options.

  A table has columns in order, an optional primary key, unique, check and foreign-key
  constraints, and options: a comment, whether it is unlogged (unset means logged), and
  storage parameters in declaration order.  `interleaveInParent` is the CockroachDB
  clause placing rows inside a parent table.
-/
namespace PgMigrate

/-- The options of a table. -/
structure TableOptions where
  comment : Option String := none
  unlogged : Option Bool := none
  storageParameters : List StorageParameter := []
deriving Repr, DecidableEq, Inhabited

/-- Whether the options make the table unlogged. -/
def TableOptions.isUnlogged (o : TableOptions) : Bool := o.unlogged.getD false

/-- `INTERLEAVE IN PARENT parent (prefix…)`. -/
structure InterleaveInParent where
  parentSchema : Option String := none
  parentTable : String
  prefixColumns : List String
deriving Repr, DecidableEq, Inhabited

/-- A table. -/
structure Table where
  schema : Option String := none
  name : String
  columns : List Column := []
  primaryKey : Option PrimaryKey := none
  uniqueConstraints : List UniqueConstraint := []
  checkConstraints : List CheckConstraint := []
  foreignKeys : List ForeignKey := []
  options : TableOptions := {}
  interleaveInParent : Option InterleaveInParent := none
deriving Inhabited

/-- The first column with this name. -/
def Table.findColumn (t : Table) (name : String) : Option Column :=
  t.columns.find? (·.name == name)

end PgMigrate
